import DevnetChaos.Proofs.Text.Digits
import DevnetChaos.ServiceName

/-!
# Rendered service names

A rendered name is read back as the service it was rendered for, in a network of any size.  The
two hyphens after the role and after the index can be told from those inside client names, because
neither a role token nor an index holds one.

Main results:

- `natOfDigits?_padIndex`: padding does not change the number that an index writes.
- `parts?_render`: role, index and tail of a rendered name.
- `parse?_render`, `parse_render`: a rendered name is read back.
- `looksLikeNodeService_render`: a rendered name passes the quick check.
- `eq_of_render_eq`: services with one rendered name are the same service.
-/

namespace DevnetChaos

/-! ## Padded indices -/

/-- A padded index is zeros and then its digits. -/
theorem padIndex_toList (width index : Nat) :
    (padIndex width index).toList =
      List.replicate (width - (toString index).length) '0' ++ Nat.toDigits 10 index := by
  simp [padIndex, Nat.toString_eq_repr]

/-- A padded index is made of digits. -/
theorem isDigit_of_mem_padIndex {width index : Nat} {c : Char}
    (hc : c ∈ (padIndex width index).toList) : Text.isDigit c = true := by
  rw [padIndex_toList, List.mem_append] at hc
  rcases hc with hc | hc
  · rw [List.eq_of_mem_replicate hc]
    rfl
  · exact Text.isDigit_of_mem_toDigits hc

theorem padIndex_all_isDigit (width index : Nat) :
    (padIndex width index).toList.all Text.isDigit = true :=
  List.all_eq_true.2 fun _ hc => isDigit_of_mem_padIndex hc

theorem padIndex_isEmpty (width index : Nat) : (padIndex width index).toList.isEmpty = false := by
  rw [padIndex_toList]
  simp [Nat.toDigits_ne_nil]

/-- Padding does not change the number that an index writes. -/
theorem natOfDigits?_padIndex (width index : Nat) :
    Text.natOfDigits? (padIndex width index).toList = some index := by
  have hvalue : Text.foldDigits 0 (padIndex width index).toList = index := by
    change Nat.ofDigitChars 10 _ 0 = index
    rw [padIndex_toList, Nat.ofDigitChars_append, Nat.ofDigitChars_replicate_zero]
    simp
  simp [Text.natOfDigits?, padIndex_all_isDigit, padIndex_isEmpty, hvalue]

/-- A padded index holds no hyphen. -/
theorem hyphen_not_mem_padIndex (width index : Nat) : '-' ∉ (padIndex width index).toList :=
  fun hmem => absurd (isDigit_of_mem_padIndex hmem) (by decide)

namespace ServiceName

/-! ## The parts of a name -/

/-- A text is cut at a hyphen that is the first. -/
theorem cutHyphen?_append {front : List Char} (back : List Char) (hfront : '-' ∉ front) :
    cutHyphen? (front ++ '-' :: back) = some (front, back) := by
  induction front with
  | nil => rfl
  | cons c rest ih =>
    simp only [List.mem_cons, not_or] at hfront
    have hc : (c == '-') = false := by simpa using Ne.symm hfront.1
    simp [cutHyphen?, hc, ih hfront.2]

/-- The token of a role holds no hyphen. -/
theorem hyphen_not_mem_token (role : Role) : '-' ∉ role.token.toList := by
  cases role <;> decide

/-- Role, index and tail of a rendered name. -/
theorem parts?_render (s : ServiceName) (nodeCount : Nat) :
    parts? (s.render nodeCount) =
      some (s.role.token.toList, (padIndex (indexWidth nodeCount) s.index).toList,
        s.client.toList ++ '-' :: s.paired.toList) := by
  have hname : (s.render nodeCount).toList =
      s.role.token.toList ++ '-' :: ((padIndex (indexWidth nodeCount) s.index).toList ++ '-' ::
        (s.client.toList ++ '-' :: s.paired.toList)) := by
    simp [render]
  unfold parts?
  rw [hname, cutHyphen?_append _ (hyphen_not_mem_token s.role)]
  simp [cutHyphen?_append _ (hyphen_not_mem_padIndex _ _)]

/-- The clients in the tail of a rendered name.  The index has no part in them. -/
theorem clients_tail (s : ServiceName) :
    (hyphenCuts (s.client.toList ++ '-' :: s.paired.toList)).findSome? (fun (client, paired) =>
      clientsOf? s.role (String.ofList client) (String.ofList paired)) =
      some (s.execution, s.consensus) := by
  obtain ⟨role, index, el, cl⟩ := s
  change (hyphenCuts ((ServiceName.mk role 0 el cl).client.toList ++
      '-' :: (ServiceName.mk role 0 el cl).paired.toList)).findSome? (fun (client, paired) =>
      clientsOf? role (String.ofList client) (String.ofList paired)) = some (el, cl)
  cases role <;> cases el <;> cases cl <;> decide +kernel

/-! ## Reading a rendered name -/

theorem ofToken?_token_toList (role : Role) :
    Role.ofToken? (String.ofList role.token.toList) = some role := by
  rw [String.ofList_toList]
  exact Role.ofToken?_token role

/-- A rendered name is read back, if its index fits a word. -/
theorem parse?_render {s : ServiceName} (nodeCount : Nat) (hindex : s.index < wordCount) :
    parse? (s.render nodeCount) = some s := by
  unfold parse?
  rw [parts?_render]
  simp only [Option.bind_eq_bind, Option.bind_some, ofToken?_token_toList,
    natOfDigits?_padIndex, Option.filter_some, hindex, decide_true, if_true, clients_tail]
  rfl

theorem parse_eq_ok {name : String} {s : ServiceName} :
    parse name = .ok s ↔ parse? name = some s := by
  rw [parse]
  cases parse? name <;> simp

/-- A rendered name is read back as the service that it names. -/
theorem parse_render {s : ServiceName} (nodeCount : Nat) (hindex : s.index < wordCount) :
    parse (s.render nodeCount) = .ok s :=
  parse_eq_ok.2 (parse?_render nodeCount hindex)

/-- A rendered name looks like that of a node service. -/
theorem looksLikeNodeService_render (s : ServiceName) (nodeCount : Nat) :
    looksLikeNodeService (s.render nodeCount) = true := by
  rw [looksLikeNodeService, parts?_render]
  simp only [ofToken?_token_toList, padIndex_all_isDigit, padIndex_isEmpty]
  rfl

/-- Services with one rendered name are the same service, whatever the sizes of their networks. -/
theorem eq_of_render_eq {s s' : ServiceName} {nodeCount nodeCount' : Nat}
    (h : s.render nodeCount = s'.render nodeCount') : s = s' := by
  have hparts := congrArg parts? h
  rw [parts?_render, parts?_render] at hparts
  simp only [Option.some.injEq, Prod.mk.injEq] at hparts
  obtain ⟨htoken, hdigits, htail⟩ := hparts
  have hrole : s.role = s'.role := by
    have hread := congrArg (fun cs => Role.ofToken? (String.ofList cs)) htoken
    simp only [ofToken?_token_toList] at hread
    exact Option.some.inj hread
  have hindex : s.index = s'.index := by
    have hread := congrArg Text.natOfDigits? hdigits
    simpa only [natOfDigits?_padIndex, Option.some.injEq] using hread
  have hclients := clients_tail s
  rw [htail, hrole, clients_tail s'] at hclients
  simp only [Option.some.injEq, Prod.mk.injEq] at hclients
  obtain ⟨role, index, el, cl⟩ := s
  obtain ⟨role', index', el', cl'⟩ := s'
  simp_all

end ServiceName
end DevnetChaos
