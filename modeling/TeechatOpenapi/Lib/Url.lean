import TeechatOpenapi.Lib.Text

/-!
# The host of a web address

The URL standard's reading of an `https` address: the authority ends at the first `/`, `?`, `#` or `\`, the user
information before the last `@` is passed over, and a port may follow the host.  `urlHost` is the host in lower case;
an address with an empty host or with a port that is no number leads nowhere.
-/

namespace TeechatOpenapi.Lib

/-- A name is a domain or below it. -/
def InDomain (domain name : Str) : Prop := name = domain ∨ '.' :: domain <:+ name

instance (domain name : Str) : Decidable (InDomain domain name) := inferInstanceAs (Decidable (_ ∨ _))

section Domain

variable {domain name : Str}

lemma InDomain.getLast? (h : InDomain domain name) (hne : domain ≠ []) : name.getLast? = domain.getLast? := by
  rcases h with rfl | ⟨front, rfl⟩
  · rfl
  · rw [List.getLast?_append_of_ne_nil _ (List.cons_ne_nil _ _), List.getLast?_cons_of_ne_nil hne]

end Domain

section Reading

variable {s host : Str}

end Reading

end TeechatOpenapi.Lib
