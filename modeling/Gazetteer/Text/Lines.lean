/-!
# Text/Lines — one spelling of the line break

A text read from a file has its line breaks, `CR LF`, `CR` or `LF`, all written as `LF`.
-/

namespace Gazetteer.Text

/-- Writes every line break as a line feed. -/
def unifyLineBreaks : List Char → List Char
  | '\r' :: '\n' :: rest => '\n' :: unifyLineBreaks rest
  | '\r' :: rest => '\n' :: unifyLineBreaks rest
  | c :: rest => c :: unifyLineBreaks rest
  | [] => []

end Gazetteer.Text
