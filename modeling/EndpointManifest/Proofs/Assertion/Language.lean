import EndpointManifest.Assertion
import EndpointManifest.Proofs.Text.Language

/-! The languages of the three assertions, as products of what an assertion is written of. -/

namespace EndpointManifest.Assertion

open Text
open scoped Computability

def opening : Language Char := anyCase "expect".toList * (mark '(' * blanks)

def awaited : Language Char := 1 + anyCase "await".toList * someOf isBlank

def pointed (p : Char → Bool) : Language Char := someOf p * (mark '.' * blanks)

def member (name : Text) : Language Char := pointed isPathChar * anyCase name

def textMember : Language Char := (pointed isNameChar)∗ * anyCase "text".toList

def emptyParens : Language Char := mark '(' * mark ')'

def closing : Language Char := (1 + emptyParens) * (mark ')' * (mark '.' * blanks))

/-- `expect(`, the subject, `).` -/
def expecting (subject : Language Char) : Language Char :=
  opening * (awaited * (subject * closing))

def argument (inside : Language Char) : Language Char :=
  mark '(' * (blanks * (inside * mark ')'))

/-- Three decimal digits, of any script, that write the number. -/
def digits (code : Nat) : Language Char :=
  {w | ∃ a b c x y z, w = [a, b, c] ∧ digitValue? a = some x ∧ digitValue? b = some y ∧
    digitValue? c = some z ∧ code = x * 100 + y * 10 + z}

def statusMatcher (code : Nat) : Language Char :=
  (anyCase "tobe".toList + anyCase "toequal".toList + anyCase "tostrictequal".toList) *
    argument (digits code)

def truthMatcher : Language Char :=
  anyCase "tobetruthy".toList * emptyParens +
    anyCase "tobe".toList * argument (anyCase "true".toList)

def containMatcher (text : Text) : Language Char :=
  anyCase "tocontain".toList * argument (quotedLine text)

/-- `expect(r.status()).toBe(201)` and the like. -/
def statusAssertion (code : Nat) : Language Char :=
  expecting (member "status".toList) * statusMatcher code

/-- `expect(r.ok()).toBeTruthy()` and the like. -/
def okAssertion : Language Char := expecting (member "ok".toList) * truthMatcher

/-- `expect(await r.text()).toContain('done')` and the like. -/
def textAssertion (text : Text) : Language Char :=
  expecting textMember * containMatcher text

end EndpointManifest.Assertion
