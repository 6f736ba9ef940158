import SuffixLint.Section

namespace SuffixLint

/-- How grave a finding is. Only errors decide whether a registry passes. -/
inductive Severity where
  | warning
  | error
deriving DecidableEq, Repr

namespace Severity

def word : Severity → Text
  | .warning => "warning".toList
  | .error => "error".toList

end Severity

inductive Finding where
  | outerSpace
  | unknownSection
  | endWithoutBegin
  | unexpectedBegin
  | unexpectedEnd
  | sectionNotClosed (region : Region)
  | missingSection (region : Region)
  | repeatedSection (region : Region) (count : Nat)
  | ruleOutsideSection
  | invalidEncoding
  | notNfkc
  | notLowercase
  | wildcardAndException
  | exceptionWithoutWildcard
  | emptyLabel
  | punycode
  | doubleMinus
  | illegalCharacter
  | doublette (earlierLine : Nat)
  | inconsistentTopLevel
  | unsortedGroup
deriving DecidableEq, Repr

namespace Finding

def severity : Finding → Severity
  | outerSpace | missingSection _ | repeatedSection _ _ | inconsistentTopLevel
  | unsortedGroup => .warning
  | _ => .error

def code : Finding → Text
  | outerSpace => "whitespace".toList
  | unknownSection => "unknown-section".toList
  | endWithoutBegin => "end-without-begin".toList
  | unexpectedBegin => "unexpected-begin".toList
  | unexpectedEnd => "unexpected-end".toList
  | sectionNotClosed _ => "section-not-closed".toList
  | missingSection _ => "missing-section".toList
  | repeatedSection _ _ => "repeated-section".toList
  | ruleOutsideSection => "rule-outside-section".toList
  | invalidEncoding => "invalid-encoding".toList
  | notNfkc => "not-nfkc".toList
  | notLowercase => "not-lowercase".toList
  | wildcardAndException => "wildcard-and-exception".toList
  | exceptionWithoutWildcard => "exception-without-wildcard".toList
  | emptyLabel => "empty-label".toList
  | punycode => "punycode".toList
  | doubleMinus => "double-minus".toList
  | illegalCharacter => "illegal-character".toList
  | doublette _ => "doublette".toList
  | inconsistentTopLevel => "group-tld".toList
  | unsortedGroup => "group-order".toList

def message : Finding → Text
  | outerSpace => "Leading/Trailing whitespace".toList
  | unknownSection => "Unexpected begin of unknown section".toList
  | endWithoutBegin => "End of section without previous begin".toList
  | unexpectedBegin => "Unexpected begin of section".toList
  | unexpectedEnd => "Unexpected end of section".toList
  | sectionNotClosed region => region.name ++ " section not closed".toList
  | missingSection region => "No ".toList ++ region.name ++ " section found".toList
  | repeatedSection region count =>
    Text.ofNat count ++ " ".toList ++ region.name ++ " sections found".toList
  | ruleOutsideSection => "Rule outside of section".toList
  | invalidEncoding => "Invalid UTF-8 character".toList
  | notNfkc => "Rule must be NFKC".toList
  | notLowercase => "Rule must be lowercase".toList
  | wildcardAndException => "Combination of wildcard and exception".toList
  | exceptionWithoutWildcard => "Exception without previous wildcard".toList
  | emptyLabel => "Leading/trailing or multiple dot".toList
  | punycode => "Punycode found".toList
  | doubleMinus => "Double minus found".toList
  | illegalCharacter => "Illegal character".toList
  | doublette earlierLine =>
    "Found doublette/ambiguity (previous line was ".toList ++ Text.ofNat earlierLine ++
      ")".toList
  | inconsistentTopLevel => "Domain group TLD is not consistent".toList
  | unsortedGroup => "Incorrectly sorted group of domains".toList

def isError (finding : Finding) : Bool := finding.severity = .error

end Finding

structure Issue where
  line : Nat
  finding : Finding
  echo : Option Text
  details : List Text := []
deriving DecidableEq, Repr

namespace Issue

def severity (issue : Issue) : Severity := issue.finding.severity

def code (issue : Issue) : Text := issue.finding.code

def message (issue : Issue) : Text := issue.finding.message

end Issue
end SuffixLint
