import ChatAutomation.Pattern.Syntax
import ChatAutomation.Text.Quoted

/-!
# Errors of patterns

Why a text is no pattern. Most errors name the place in the text; in a text of several lines the
line and the column are added.
-/
namespace ChatAutomation.Pattern

inductive Problem where
  | danglingEscape
  | badEscape (text : String)
  | incompleteEscape (text : String)
  | octalEscape (text : String)
  | invalidGroup (number : Nat)
  | openGroup
  | lookbehindGroup
  | unterminatedSet
  | badRange (first last : String)
  | repeatOrder
  | nothingToRepeat
  | multipleRepeat
  | unexpectedEnd
  | unknownExtension (text : String)
  | unterminatedComment
  | unterminatedGroup
  | missingName
  | unterminatedName
  | unknownName (name : String)
  | badName (name : String)
  | zeroGroup
  | thirdBranch
  | lateFlags
  | unknownFlag
  | missingFlag
  | missingColon
  | missingFlagEnd
  | localeFlag
  | incompatibleFlags
  | globalFlagOn
  | globalFlagOff
  | typeFlagOff
  | flagOnAndOff
  | unbalanced
  | lookbehindWidth
  | templateLoop (greed : Greed)
  deriving DecidableEq, Repr

def Problem.message : Problem → String
  | danglingEscape => "bad escape (end of pattern)"
  | badEscape text => s!"bad escape {text}"
  | incompleteEscape text => s!"incomplete escape {text}"
  | octalEscape text => s!"octal escape value {text} outside of range 0-0o377"
  | invalidGroup number => s!"invalid group reference {number}"
  | openGroup => "cannot refer to an open group"
  | lookbehindGroup => "cannot refer to group defined in the same lookbehind subpattern"
  | unterminatedSet => "unterminated character set"
  | badRange first last => s!"bad character range {first}-{last}"
  | repeatOrder => "min repeat greater than max repeat"
  | nothingToRepeat => "nothing to repeat"
  | multipleRepeat => "multiple repeat"
  | unexpectedEnd => "unexpected end of pattern"
  | unknownExtension text => s!"unknown extension {text}"
  | unterminatedComment => "missing ), unterminated comment"
  | unterminatedGroup => "missing ), unterminated subpattern"
  | missingName => "missing group name"
  | unterminatedName => "missing ), unterminated name"
  | unknownName name => "unknown group name " ++ Text.quote name
  | badName name => "bad character in group name " ++ Text.quote name
  | zeroGroup => "bad group number"
  | thirdBranch => "conditional backref with more than two branches"
  | lateFlags => "global flags not at the start of the expression"
  | unknownFlag => "unknown flag"
  | missingFlag => "missing flag"
  | missingColon => "missing :"
  | missingFlagEnd => "missing -, : or )"
  | localeFlag => "bad inline flags: cannot use 'L' flag with a str pattern"
  | incompatibleFlags => "bad inline flags: flags 'a', 'u' and 'L' are incompatible"
  | globalFlagOn => "bad inline flags: cannot turn on global flag"
  | globalFlagOff => "bad inline flags: cannot turn off global flag"
  | typeFlagOff => "bad inline flags: cannot turn off flags 'a', 'u' and 'L'"
  | flagOnAndOff => "bad inline flags: flag turned on and off"
  | unbalanced => "unbalanced parenthesis"
  | lookbehindWidth => "look-behind requires fixed-width pattern"
  | templateLoop .greedy => "internal: unsupported template operator MAX_REPEAT"
  | templateLoop .lazy => "internal: unsupported template operator MIN_REPEAT"
  | templateLoop .possessive => "internal: unsupported template operator POSSESSIVE_REPEAT"

/-- What is wrong with a text that should be a pattern, or with a search for it. Only the first is a
fault of syntax: the others are numbers that are too large, flags that exclude each other, a
lookbehind that reaches too far, and a match in which a group ends before it begins. -/
inductive Error where
  | malformed (problem : Problem) (position : Option Nat)
  | hugeRepetition
  | hugeNumber (digits : Nat)
  | clashingFlags
  | invalidCode
  | wrongSpan
  deriving DecidableEq, Repr

namespace Error

/-- Is it an error of syntax, which makes a trigger match nothing? -/
def isMalformed : Error → Bool
  | malformed .. => true
  | _ => false

def message (pattern : String) : Error → String
  | malformed problem none => problem.message
  | malformed problem (some position) =>
    let base := s!"{problem.message} at position {position}"
    let passed := pattern.toList.take position
    let line := passed.count '\n' + 1
    let column := (passed.reverse.takeWhile (· != '\n')).length + 1
    if pattern.toList.contains '\n' then s!"{base} (line {line}, column {column})" else base
  | hugeRepetition => "the repetition number is too large"
  | hugeNumber digits =>
    s!"Exceeds the limit (4300 digits) for integer string conversion: value has {digits} " ++
      "digits; use sys.set_int_max_str_digits() to increase the limit"
  | clashingFlags => "ASCII and UNICODE flags are incompatible"
  | invalidCode => "invalid SRE code"
  | wrongSpan =>
    "The span of capturing group is wrong, please report a bug for the re module."

/-- The name of the kind of an error that is none of syntax. -/
def kindName : Error → String
  | malformed .. => "error"
  | hugeRepetition => "OverflowError"
  | hugeNumber _ | clashingFlags => "ValueError"
  | invalidCode => "RuntimeError"
  | wrongSpan => "SystemError"

end Error
end ChatAutomation.Pattern
