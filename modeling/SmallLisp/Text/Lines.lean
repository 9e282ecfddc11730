/-
**Line ends.** Source text may end its lines with a line feed, a carriage return, or both; all
three become a single line feed before anything else looks at the text.
-/

namespace SmallLisp.Text

/-- Writes every line end as a line feed. The flag says that the last character was a carriage
return, which was already written as a line end, so that a line feed right after it is dropped. -/
def unifyLinesFrom (afterReturn : Bool) (done : List Char) : List Char → List Char
  | [] => done.reverse
  | c :: rest =>
    if c = '\r' then unifyLinesFrom true ('\n' :: done) rest
    else if c = '\n' && afterReturn then unifyLinesFrom false done rest
    else unifyLinesFrom false (c :: done) rest

/-- The characters with every line end written as a single line feed. -/
def unifyLines (chars : List Char) : List Char := unifyLinesFrom false [] chars

end SmallLisp.Text
