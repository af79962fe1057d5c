import Stencil.Text.CaseMap
import Stencil.Text.Letter

/-!
# Case of whole texts

Upper case maps every character on its own. Lower case looks at the neighbours of a sigma, whose
form at the end of a word is its own, and title case writes the first letter of each run of cased
characters in title case and the others in lower case.
-/

namespace Stencil.Text

/-- Upper case, with mappings to several characters. -/
def upper (cs : List Char) : List Char :=
  cs.flatMap upperMap.apply

/-- Tells whether the first character that is not passed over has case. -/
def nextIsCased (cs : List Char) : Bool :=
  match cs.dropWhile isCaseIgnorable with
  | [] => false
  | c :: _ => isCased c

/--
Lower case of a character between others, `before` being the text before it in reverse. A capital
sigma takes its final form after a letter and not before one.
-/
def lowerAt (before : List Char) (c : Char) (after : List Char) : List Char :=
  if c = 'Σ' then
    if nextIsCased before && !nextIsCased after then ['ς'] else ['σ']
  else lowerMap.apply c

/-- Lower case of the text after `before`, which is given in reverse. -/
def lowerFrom (before : List Char) : List Char → List Char
  | [] => []
  | c :: cs => lowerAt before c cs ++ lowerFrom (c :: before) cs

/-- Lower case, with mappings to several characters. -/
def lower (cs : List Char) : List Char :=
  lowerFrom [] cs

/-- Title case of the text after `before`, which is given in reverse. -/
def titleFrom (before : List Char) : List Char → List Char
  | [] => []
  | c :: cs =>
    let inWord := match before with
      | [] => false
      | b :: _ => isCased b
    (if inWord then lowerAt before c cs else titleMap.apply c) ++ titleFrom (c :: before) cs

/-- Title case: each run of cased characters starts with a title case character. -/
def title (cs : List Char) : List Char :=
  titleFrom [] cs

/-- Upper case for the first character and no change for the others. -/
def capitalize : List Char → List Char
  | [] => []
  | c :: cs => upperMap.apply c ++ cs

end Stencil.Text
