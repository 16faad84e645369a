import TeechatOpenapi.CrateTables
import TeechatOpenapi.Lib.Url

/-!
# The HTTPS relay of the ceremony helper (`bins/openapi-ceremony-helper`)

The enclave has no resolver, so the host's helper makes its requests to the certificate authority.  The helper looks at
the address with a reader of its own before it hands the text to `ureq`, which reads it as the URL standard says
(`urlHost`).
-/

namespace TeechatOpenapi.Helper

open Lib

section Relay

variable (X : Crates) (H : HelperCrates)

end Relay

/-- The hosts of the certificate authorities. -/
def IsAcmeHost (host : Str) : Prop := InDomain "letsencrypt.org" host ∨ InDomain "zerossl.com" host

instance (host : Str) : Decidable (IsAcmeHost host) := inferInstanceAs (Decidable (_ ∨ _))

lemma IsAcmeHost.getLast? {host : Str} (h : IsAcmeHost host) :
    host.getLast? = some 'g' ∨ host.getLast? = some 'm' := by
  rcases h with h | h
  · exact Or.inl (h.getLast? (by decide))
  · exact Or.inr (h.getLast? (by decide))

lemma lowerChar_of_isAsciiDigit {c : Char} (h : isAsciiDigit c = true) : lowerChar c = c := by
  rw [isAsciiDigit, Bool.and_eq_true, decide_eq_true_eq, decide_eq_true_eq] at h
  rw [lowerChar, if_neg]
  intro hupper
  exact absurd (Char.le_trans hupper.1 h.2) (by decide)

/-- A text that is an ACME host in lower case ends in no bracket, colon or digit. -/
lemma IsAcmeHost.last {s : Str} {c : Char} (h : IsAcmeHost (toAsciiLowercase s)) (hlast : s.getLast? = some c) :
    c ≠ ']' ∧ c ≠ ':' ∧ isAsciiDigit c = false := by
  have hlower : (toAsciiLowercase s).getLast? = some (lowerChar c) := by
    rw [toAsciiLowercase, List.getLast?_map, hlast]
    rfl
  have hletter : lowerChar c = 'g' ∨ lowerChar c = 'm' := by
    rcases h.getLast? with hg | hm
    · exact Or.inl (Option.some.inj (hlower.symm.trans hg))
    · exact Or.inr (Option.some.inj (hlower.symm.trans hm))
  refine ⟨?_, ?_, ?_⟩
  · rintro rfl
    revert hletter
    decide
  · rintro rfl
    revert hletter
    decide
  · rw [Bool.eq_false_iff]
    intro hdigit
    rw [lowerChar_of_isAsciiDigit hdigit] at hletter
    rcases hletter with rfl | rfl
    · exact absurd hdigit (by decide)
    · exact absurd hdigit (by decide)

section Exact

variable {X : Crates} {H : HelperCrates} {req : HttpsRelayRequest}

end Exact

namespace Sample

end Sample

end TeechatOpenapi.Helper
