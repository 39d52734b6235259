import Handoff.Message
/-!
# Lines

Bytes are cut into lines after every line feed. The content of a line is what comes before its line
feed, less one carriage return directly before it. Bytes after the last line feed are a line too,
and that line keeps a carriage return at its end.
-/
namespace Handoff.Text.Lines

def lineFeed : UInt8 := 10

def carriageReturn : UInt8 := 13

/-- The first line with its line feed, and the rest. -/
def cut? : Bytes → Option (Bytes × Bytes)
  | [] => none
  | b :: rest =>
    if b = lineFeed then some ([b], rest)
    else (cut? rest).map fun (line, rest) => (b :: line, rest)

/-- The content of a line that may end in a line feed. -/
def content (line : Bytes) : Bytes :=
  match line.reverse with
  | [] => []
  | b :: before =>
    if b = lineFeed then
      match before with
      | [] => []
      | c :: more => if c = carriageReturn then more.reverse else before.reverse
    else line

end Handoff.Text.Lines
