import GridAccess.Text.HiddenTable
import GridAccess.Text.Hex

/-!
# Quoted texts

A text between double quotes in which quotes, backslashes and characters that would not be seen
are written as escapes. It is meant for people, in diagnostic output.

## Main definitions

- `quote` — the quoted form of a text
- `tagged` — the quoted form of a text with the name of its kind around it
-/

namespace GridAccess.Text

def quoteChar (c : Char) : List Char :=
  match c with
  | '\x00' => ['\\', '0']
  | '\t' => ['\\', 't']
  | '\r' => ['\\', 'r']
  | '\n' => ['\\', 'n']
  | '"' => ['\\', '"']
  | '\\' => ['\\', '\\']
  | _ =>
    if inRanges hiddenRanges c.toNat then
      ['\\', 'u', '\x7b'] ++ Hex.digits c.toNat ++ ['\x7d']
    else [c]

def quote (text : String) : String :=
  String.ofList ('"' :: text.toList.flatMap quoteChar ++ ['"'])

/-- The quoted form of a text as the content of a named kind. -/
def tagged (kind text : String) : String :=
  kind ++ "(" ++ quote text ++ ")"

end GridAccess.Text
