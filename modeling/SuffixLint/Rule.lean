import SuffixLint.Finding
import SuffixLint.Text.Compatibility
import SuffixLint.Text.Lowercase

namespace SuffixLint

inductive RuleKind where
  | plain
  | wildcard
  | exception
deriving DecidableEq, Repr

namespace RuleKind

/-- The rank that the first character of a rule gives it within a group: wildcards come first, then
exceptions, then all others. -/
def rankOf : Option Char → Nat
  | some '*' => 0
  | some '!' => 1
  | _ => 2

theorem rankOf_lt_iff {a b : Option Char} :
    rankOf a < rankOf b ↔
      a = some '*' ∧ b ≠ some '*' ∨ a = some '!' ∧ b ≠ some '*' ∧ b ≠ some '!' := by
  unfold rankOf
  split <;> split <;> simp_all

end RuleKind

structure RuleStanding where
  kind : RuleKind
  region : Region
deriving DecidableEq, Repr

namespace RuleStanding

def isPlain (standing : RuleStanding) : Bool := standing.kind = .plain

def isWildcard (standing : RuleStanding) : Bool := standing.kind = .wildcard

def isException (standing : RuleStanding) : Bool := standing.kind = .exception

end RuleStanding

namespace Rule

/-- The kind of a rule and its domain, which is the rule without its prefix. -/
def kindAndDomain : Text → RuleKind × Text
  | '*' :: '.' :: domain => (.wildcard, domain)
  | '!' :: domain => (.exception, domain)
  | text => (.plain, text)

def kind (text : Text) : RuleKind := (kindAndDomain text).1

def domain (text : Text) : Text := (kindAndDomain text).2

def labels (domain : Text) : List Text := domain.splitOn '.'

def ofLabels (labels : List Text) : Text := Text.join ['.'] labels

def isWildcardException (text : Text) : Bool := "*.!".toList.isPrefixOf text

def isLabelCharacter (c : Char) : Bool := c.isAlphanum || c == '-'

def punycodeMark : Text := "xn--".toList

/-- The fault of a label, if it has one; characters outside ASCII are accepted as they are. -/
def labelFault (label : Text) : Option Finding :=
  if label.isEmpty then some .emptyLabel
  else if punycodeMark.isPrefixOf label then some .punycode
  else if Text.hasInfix "--".toList label then some .doubleMinus
  else if label.any fun c => c.toNat < 0x80 && !isLabelCharacter c then some .illegalCharacter
  else none

theorem labels_ne_nil (domain : Text) : labels domain ≠ [] := by
  simp [labels]

@[simp] theorem ofLabels_labels (domain : Text) : ofLabels (labels domain) = domain :=
  List.intercalate_splitOn '.'

theorem labels_ofLabels {ls : List Text} (dotFree : ∀ l ∈ ls, '.' ∉ l) (nonempty : ls ≠ []) :
    labels (ofLabels ls) = ls :=
  List.splitOn_intercalate '.' dotFree nonempty

theorem kindAndDomain_eq_wildcard_iff {text d : Text} :
    kindAndDomain text = (.wildcard, d) ↔ text = '*' :: '.' :: d := by
  unfold kindAndDomain
  split <;> simp_all

theorem kindAndDomain_eq_exception_iff {text d : Text} :
    kindAndDomain text = (.exception, d) ↔ text = '!' :: d := by
  unfold kindAndDomain
  split <;> simp_all

theorem kindAndDomain_eq_plain_iff {text d : Text} :
    kindAndDomain text = (.plain, d) ↔
      d = text ∧ (∀ rest, text ≠ '*' :: '.' :: rest) ∧ ∀ rest, text ≠ '!' :: rest := by
  unfold kindAndDomain
  split <;> simp_all [eq_comm]

end Rule
end SuffixLint
