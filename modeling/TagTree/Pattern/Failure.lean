import TagTree.Pattern.Basic
import TagTree.Text.Line
import TagTree.Text.Quoted

/-!
# Malformed patterns

Why a text is not a search pattern, and how that is explained.
-/

namespace TagTree.Pattern

/-- A flaw in the notation of a pattern. -/
inductive Flaw
  | danglingBackslash
  | badEscape (escape : List Char)
  | incompleteEscape (escape : List Char)
  | octalRange (escape : List Char)
  | missingBrace
  | unknownCharacterName (name : List Char)
  | unterminatedSet
  | badRange (first last : List Char)
  | nothingToRepeat
  | multipleRepeat
  | repeatOrder
  | unterminatedGroup
  | unbalancedParenthesis
  | unterminatedComment
  | unexpectedEnd
  | unknownExtension (extension : List Char)
  | missingName (what : String)
  | unterminatedName (terminator : Char)
  | badGroupName (name : List Char)
  | badGroupNumber
  | unknownGroup (name : List Char)
  | groupReference (index : Nat)
  | openGroup
  | groupInLookbehind
  | groupRedefined (name : List Char) (index earlier : Nat)
  | conditionBranches
  | localeFlag
  | flagKinds
  | unknownFlag
  | missingFlagEnd
  | missingFlag
  | missingColon
  | flagKindOff
  | globalFlagOn
  | globalFlagOff
  | flagOnAndOff
  | flagsNotFirst
  | lookbehindWidth
  | repeatInTemplate (greed : Greed)
  deriving DecidableEq, Repr

private def ofChars (cs : List Char) : String :=
  String.ofList cs

def Flaw.message : Flaw → String
  | .danglingBackslash => "bad escape (end of pattern)"
  | .badEscape e => "bad escape " ++ ofChars e
  | .incompleteEscape e => "incomplete escape " ++ ofChars e
  | .octalRange e => "octal escape value " ++ ofChars e ++ " outside of range 0-0o377"
  | .missingBrace => "missing \x7b"
  | .unknownCharacterName name => "undefined character name " ++ Text.quote (ofChars name)
  | .unterminatedSet => "unterminated character set"
  | .badRange first last => "bad character range " ++ ofChars first ++ "-" ++ ofChars last
  | .nothingToRepeat => "nothing to repeat"
  | .multipleRepeat => "multiple repeat"
  | .repeatOrder => "min repeat greater than max repeat"
  | .unterminatedGroup => "missing ), unterminated subpattern"
  | .unbalancedParenthesis => "unbalanced parenthesis"
  | .unterminatedComment => "missing ), unterminated comment"
  | .unexpectedEnd => "unexpected end of pattern"
  | .unknownExtension e => "unknown extension ?" ++ ofChars e
  | .missingName what => "missing " ++ what
  | .unterminatedName terminator => "missing " ++ ofChars [terminator] ++ ", unterminated name"
  | .badGroupName name => "bad character in group name " ++ Text.quote (ofChars name)
  | .badGroupNumber => "bad group number"
  | .unknownGroup name => "unknown group name " ++ Text.quote (ofChars name)
  | .groupReference index => "invalid group reference " ++ toString index
  | .openGroup => "cannot refer to an open group"
  | .groupInLookbehind => "cannot refer to group defined in the same lookbehind subpattern"
  | .groupRedefined name index earlier =>
    "redefinition of group name " ++ Text.quote (ofChars name) ++ " as group " ++ toString index ++
      "; was group " ++ toString earlier
  | .conditionBranches => "conditional backref with more than two branches"
  | .localeFlag => "bad inline flags: cannot use 'L' flag with a str pattern"
  | .flagKinds => "bad inline flags: flags 'a', 'u' and 'L' are incompatible"
  | .unknownFlag => "unknown flag"
  | .missingFlagEnd => "missing -, : or )"
  | .missingFlag => "missing flag"
  | .missingColon => "missing :"
  | .flagKindOff => "bad inline flags: cannot turn off flags 'a', 'u' and 'L'"
  | .globalFlagOn => "bad inline flags: cannot turn on global flag"
  | .globalFlagOff => "bad inline flags: cannot turn off global flag"
  | .flagOnAndOff => "bad inline flags: flag turned on and off"
  | .flagsNotFirst => "global flags not at the start of the expression"
  | .lookbehindWidth => "look-behind requires fixed-width pattern"
  | .repeatInTemplate greed =>
    let operator :=
      match greed with
      | .greedy => "MAX_REPEAT"
      | .lazy => "MIN_REPEAT"
      | .possessive => "POSSESSIVE_REPEAT"
    "internal: unsupported template operator " ++ operator

/-- Why a pattern cannot be used. The last three are no flaws of the notation. -/
inductive Failure
  | malformed (flaw : Flaw) (position : Option Nat)
  | hugeRepeat
  | longNumber (digits : Nat)
  | flagClash
  deriving DecidableEq, Repr

/-- The explanation of a flaw; line and column are given too if the pattern has several lines. -/
def Flaw.explain (flaw : Flaw) (position : Option Nat) (source : List Char) : String :=
  match position with
  | none => flaw.message
  | some p =>
    let place := Text.placeAfter (source.take p)
    let lines :=
      if '\n' ∈ source then
        " (line " ++ toString place.line ++ ", column " ++ toString place.column ++ ")"
      else ""
    flaw.message ++ " at position " ++ toString p ++ lines

end TagTree.Pattern
