import VtxMonitor.Text.Combining
import VtxMonitor.Text.Graphic
import VtxMonitor.Text.Number

/-!
# Text/Dump — one-line dumps of structured values

A `Dump` is the tree of names, numbers and fields that a diagnostic shows of a value. Its text is
fixed by `render`: `Name { field: value, … }` for a record, `[a, b]` for a list, `Name(value)` for a
wrapped value. The radix is chosen once for the whole dump; hexadecimal numbers carry no marker.
-/

namespace VtxMonitor.Text

/-- What a dump shows of a value. -/
inductive Dump where
  | number (value : Nat)
  | flag (value : Bool)
  | name (label : String)
  | quoted (content : String)
  | list (items : List Dump)
  | record (label : String) (fields : List (String × Dump))
  | wrapped (label : String) (content : Dump)

/-- The base in which a dump writes its numbers. -/
inductive Radix where
  | decimal
  | hexadecimal

/-- A number in the chosen base, without a marker. -/
def Radix.digits : Radix → Nat → String
  | .decimal, n => Text.decimal n
  | .hexadecimal, n => hexDigits n

/-- Whether a quoted text shows the character as it is: where it is seen, and on its own. -/
def isShown (c : Char) : Bool := isGraphic c && !isExtendingMark c

/-- One character of a quoted text; a character that is not shown as it is appears by its number. -/
def quoteChar (c : Char) : String :=
  if c = '"' then "\\\""
  else if c = '\\' then "\\\\"
  else if c = '\n' then "\\n"
  else if c = '\r' then "\\r"
  else if c = '\t' then "\\t"
  else if c.toNat = 0 then "\\0"
  else if isShown c then c.toString
  else "\\u\x7b" ++ hexDigits c.toNat ++ "\x7d"

/-- A text between double quotes, with its own quotes and backslashes escaped. -/
def quote (s : String) : String :=
  "\"" ++ String.join (s.toList.map quoteChar) ++ "\""

mutual

/-- The text of a dump. -/
def Dump.render (radix : Radix) : Dump → String
  | .number n => radix.digits n
  | .flag b => if b then "true" else "false"
  | .name label => label
  | .quoted content => quote content
  | .list items => "[" ++ ", ".intercalate (renderItems radix items) ++ "]"
  | .record label fields =>
      label ++ " \x7b " ++ ", ".intercalate (renderFields radix fields) ++ " \x7d"
  | .wrapped label content => label ++ "(" ++ content.render radix ++ ")"

/-- The texts of the items of a list. -/
def renderItems (radix : Radix) : List Dump → List String
  | [] => []
  | item :: rest => item.render radix :: renderItems radix rest

/-- The texts of the fields of a record, each behind its label. -/
def renderFields (radix : Radix) : List (String × Dump) → List String
  | [] => []
  | (label, value) :: rest =>
      (label ++ ": " ++ value.render radix) :: renderFields radix rest

end

/-- The label at the root of a dump; empty for what has none. -/
def Dump.label : Dump → String
  | .name label | .record label _ | .wrapped label _ => label
  | _ => ""

/-- A dump with decimal numbers. -/
def Dump.inDecimal (dump : Dump) : String := dump.render .decimal

/-- A dump with hexadecimal numbers. -/
def Dump.inHex (dump : Dump) : String := dump.render .hexadecimal

end VtxMonitor.Text
