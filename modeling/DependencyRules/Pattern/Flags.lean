/-!
# Flags

The settings that a pattern can change for a part of itself, such as `(?i)` for letters of either
case.
-/

namespace DependencyRules

inductive Flag where
  | ignoreCase
  | multiLine
  | dotMatchesLineEnd
  | swapGreed
  | unicode
  | anyLineEnd
  | ignoreBlanks
deriving DecidableEq

namespace Flag

def ofLetter? (c : Char) : Option Flag :=
  if c = 'i' then some .ignoreCase
  else if c = 'm' then some .multiLine
  else if c = 's' then some .dotMatchesLineEnd
  else if c = 'U' then some .swapGreed
  else if c = 'u' then some .unicode
  else if c = 'R' then some .anyLineEnd
  else if c = 'x' then some .ignoreBlanks
  else none

end Flag

/-- The settings at a place of a pattern. Which of several matches is preferred makes no
difference to whether there is one, so greed is not among them. -/
structure Flags where
  ignoreCase : Bool := false
  multiLine : Bool := false
  dotMatchesLineEnd : Bool := false
  unicode : Bool := true
  anyLineEnd : Bool := false
  ignoreBlanks : Bool := false
deriving DecidableEq

namespace Flags

def set (flags : Flags) (value : Bool) : Flag → Flags
  | .ignoreCase => { flags with ignoreCase := value }
  | .multiLine => { flags with multiLine := value }
  | .dotMatchesLineEnd => { flags with dotMatchesLineEnd := value }
  | .swapGreed => flags
  | .unicode => { flags with unicode := value }
  | .anyLineEnd => { flags with anyLineEnd := value }
  | .ignoreBlanks => { flags with ignoreBlanks := value }

/-- The settings after a list of flags, and what ended it. -/
structure Change where
  flags : Flags
  /-- Whether there was no flag. -/
  isEmpty : Bool
  /-- Whether a colon ended the list, which starts a group. -/
  startsGroup : Bool

/-- Reads flags up to a colon or a closing parenthesis. A dash turns the flags after it off; it
stands at most once and not at the end, and no flag stands twice. -/
def read (flags : Flags) (negated dangling : Bool) (seen : List Flag) :
    List Char → Option (Change × List Char)
  | [] => none
  | c :: rest =>
      if c = ':' ∨ c = ')' then
        if dangling then none else some (⟨flags, seen.isEmpty, c = ':'⟩, rest)
      else if c = '-' then
        if negated then none else flags.read true true seen rest
      else
        match Flag.ofLetter? c with
        | none => none
        | some flag =>
            if seen.contains flag then none
            else (flags.set (!negated) flag).read negated false (flag :: seen) rest

end Flags

end DependencyRules
