/-!
# Line ends

Texts from files and from the standard input may end their lines in three ways. Inside the library every line ends
with a line feed.
-/

namespace PointOfFocus.Text

/-- The text with every carriage return, and every one with a line feed after it, made a line feed. -/
def uniformLines : List Char → List Char
  | [] => []
  | '\r' :: '\n' :: cs => '\n' :: uniformLines cs
  | '\r' :: cs => '\n' :: uniformLines cs
  | c :: cs => c :: uniformLines cs

end PointOfFocus.Text
