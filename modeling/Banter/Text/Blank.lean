/-! White space and trimming. -/
namespace Banter.Text

/-- Tab to carriage return, the four information separators and the space, the next-line control,
and the space, line and paragraph separators of the character database. -/
def isBlank (c : Char) : Bool :=
  let n := c.toNat
  (0x9 ≤ n && n ≤ 0xd) || (0x1c ≤ n && n ≤ 0x20) || n == 0x85 || n == 0xa0 || n == 0x1680 ||
    (0x2000 ≤ n && n ≤ 0x200a) || n == 0x2028 || n == 0x2029 || n == 0x202f || n == 0x205f ||
    n == 0x3000

def trimLeft (s : List Char) : List Char :=
  s.dropWhile isBlank

def trimRight (s : List Char) : List Char :=
  s.foldr (fun c kept => if kept.isEmpty && isBlank c then [] else c :: kept) []

def trim (s : List Char) : List Char :=
  trimRight (trimLeft s)

def blank (s : String) : Bool :=
  s.toList.all isBlank

/-- The characters of a text that may be absent. -/
def given (text : Option String) : List Char :=
  (text.getD "").toList

theorem trimRight_cons (c : Char) (s : List Char) :
    trimRight (c :: s) = if (trimRight s).isEmpty && isBlank c then [] else c :: trimRight s := rfl

end Banter.Text
