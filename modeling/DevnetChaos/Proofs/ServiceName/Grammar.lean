import DevnetChaos.Proofs.ServiceName.Rendering

/-!
# The grammar of service names

A name is read exactly when it consists of a role, an index in digits and two clients, with hyphens
between them.  No name can be cut into such parts in two ways, although the names of clients hold
hyphens and begin like one another.

Main definitions:

- `NameParts`: the four parts of a name.
- `NameParts.Spells`: parts that spell a service.

Main results:

- `parse_eq_ok_iff`: a name is read as the service that its parts spell.
- `spells_unique`: a name has the parts of one service at most.
- `looksLikeNodeService_of_spells`: a name that is read passes the quick check.
- `length_padIndex`: the width of a rendered index.
- `parse_exact`: the grammar, its uniqueness, the quick check and rendering together.
-/

namespace DevnetChaos

/-- The four parts of a name. -/
structure NameParts where
  token : String
  digits : String
  client : String
  paired : String
  deriving DecidableEq, Repr

namespace NameParts

/-- The name with these parts. -/
def text (q : NameParts) : String :=
  q.token ++ "-" ++ q.digits ++ "-" ++ q.client ++ "-" ++ q.paired

/-- Parts that spell a service.  The role is given by its token or in full, the index by a run of
digits with any zeros in front, and the two clients by their names: that of the service first. -/
structure Spells (q : NameParts) (s : ServiceName) : Prop where
  token : q.token = s.role.token ∨ q.token = s.role.name
  digits_ne : q.digits ≠ ""
  digits : ∀ c ∈ q.digits.toList, Text.isDigit c = true
  index : Nat.ofDigitChars 10 q.digits.toList 0 = s.index
  index_lt : s.index < wordCount
  client : q.client = s.client
  paired : q.paired = s.paired

/-- The parts of a name are separated by hyphens. -/
theorem text_toList (q : NameParts) :
    q.text.toList = q.token.toList ++ '-' :: (q.digits.toList ++ '-' ::
      (q.client.toList ++ '-' :: q.paired.toList)) := by
  simp [text]

end NameParts

/-! ## Roles and digits -/

/-- A role is written as its token or spelled out. -/
theorem Role.ofToken?_eq_some {s : String} {r : Role} :
    Role.ofToken? s = some r ↔ s = r.token ∨ s = r.name := by
  constructor
  · intro h
    have hfound := List.find?_some h
    rw [Bool.or_eq_true, beq_iff_eq, beq_iff_eq] at hfound
    exact hfound.imp Eq.symm Eq.symm
  · rintro (rfl | rfl) <;> cases r <;> rfl

/-- Neither a token nor a name of a role holds a hyphen. -/
theorem Role.hyphen_not_mem {token : String} {r : Role} (h : token = r.token ∨ token = r.name) :
    '-' ∉ token.toList := by
  rcases h with rfl | rfl <;> cases r <;> decide

/-- Digits hold no hyphen. -/
theorem hyphen_not_mem_of_isDigit {digits : List Char}
    (h : ∀ c ∈ digits, Text.isDigit c = true) : '-' ∉ digits :=
  fun hmem => absurd (h _ hmem) (by decide)

/-- A padded index is as wide as asked for, or as its digits. -/
theorem length_padIndex (width index : Nat) :
    (padIndex width index).length = max width (Nat.toDigits 10 index).length := by
  rw [← String.length_toList, padIndex_toList]
  simp only [List.length_append, List.length_replicate, Nat.toString_eq_ofList_toDigits,
    String.length_ofList]
  omega

/-- Indices up to the number of nodes fit the width of that number. -/
theorem length_toDigits_le_indexWidth {index nodeCount : Nat} (h : index ≤ nodeCount) :
    (Nat.toDigits 10 index).length ≤ indexWidth nodeCount := by
  have hwidth : indexWidth nodeCount = (Nat.toDigits 10 (max nodeCount 1)).length := by
    rw [indexWidth, Nat.toString_eq_ofList_toDigits, String.length_ofList]
  have hpos : 0 < indexWidth nodeCount := by
    rw [hwidth]
    exact Nat.length_toDigits_pos
  have hlt : max nodeCount 1 < 10 ^ indexWidth nodeCount :=
    (Nat.length_toDigits_le_iff (by decide) hpos).1 (Nat.le_of_eq hwidth.symm)
  exact (Nat.length_toDigits_le_iff (by decide) hpos).2 (by omega)

namespace ServiceName

/-! ## Cutting at hyphens -/

/-- A text is cut at its first hyphen. -/
theorem cutHyphen?_eq_some {cs front back : List Char} :
    cutHyphen? cs = some (front, back) ↔ '-' ∉ front ∧ cs = front ++ '-' :: back := by
  constructor
  · intro h
    induction cs generalizing front with
    | nil => cases h
    | cons c rest ih =>
      rw [cutHyphen?] at h
      split at h
      · next hc =>
        cases h
        exact ⟨by simp, by rw [eq_of_beq hc]; rfl⟩
      · next hc =>
        obtain ⟨⟨front', back'⟩, hrest, heq⟩ := Option.map_eq_some_iff.1 h
        cases heq
        obtain ⟨hfront, rfl⟩ := ih hrest
        refine ⟨?_, rfl⟩
        rw [List.mem_cons, not_or]
        exact ⟨fun h => hc (beq_iff_eq.2 h.symm), hfront⟩
  · rintro ⟨hfront, rfl⟩
    exact cutHyphen?_append back hfront

/-- A text can be cut at each of its hyphens. -/
theorem mem_hyphenCuts {cs front back : List Char} :
    (front, back) ∈ hyphenCuts cs ↔ cs = front ++ '-' :: back := by
  induction cs generalizing front with
  | nil => simp [hyphenCuts]
  | cons c rest ih =>
    have hlater : (front, back) ∈ (hyphenCuts rest).map (fun cut => (c :: cut.1, cut.2)) ↔
        ∃ front', front = c :: front' ∧ rest = front' ++ '-' :: back := by
      simp only [List.mem_map, Prod.exists, Prod.mk.injEq]
      constructor
      · rintro ⟨front', back', hmem, rfl, rfl⟩
        exact ⟨front', rfl, ih.1 hmem⟩
      · rintro ⟨front', rfl, hrest⟩
        exact ⟨front', back, ih.2 hrest, rfl, rfl⟩
    rw [hyphenCuts, List.cons_eq_append_iff]
    dsimp only
    split
    · next hc =>
      rw [List.mem_cons, hlater, Prod.mk.injEq, List.cons.injEq, eq_of_beq hc]
      grind
    · next hc =>
      rw [hlater, List.cons.injEq]
      grind

/-! ## Clients -/

/-- Of two clients the one of the role comes first. -/
theorem clientsOf?_eq_some {role : Role} {client paired : String} {el : ExecutionKind}
    {cl : ConsensusKind} (h : clientsOf? role client paired = some (el, cl)) (index : Nat) :
    client = (ServiceName.mk role index el cl).client ∧
      paired = (ServiceName.mk role index el cl).paired := by
  cases role with
  | execution =>
    simp only [clientsOf?] at h
    split at h
    · next hel hcl =>
      cases h
      exact ⟨(ExecutionKind.name_of_ofName? hel).symm, (ConsensusKind.name_of_ofName? hcl).symm⟩
    · cases h
  | consensus | validator =>
    simp only [clientsOf?] at h
    split at h
    · next hel hcl =>
      cases h
      exact ⟨(ConsensusKind.name_of_ofName? hcl).symm, (ExecutionKind.name_of_ofName? hel).symm⟩
    · cases h

/-! ## Reading a name -/

variable {name : String} {s s' : ServiceName} {q q' : NameParts}

/-- The first three parts of a name that spells a service. -/
theorem parts?_of_spells (hq : q.Spells s) (hname : q.text = name) :
    parts? name = some (q.token.toList, q.digits.toList,
      s.client.toList ++ '-' :: s.paired.toList) := by
  have hdigits := hyphen_not_mem_of_isDigit hq.digits
  unfold parts?
  rw [← hname, q.text_toList, cutHyphen?_append _ (Role.hyphen_not_mem hq.token), hq.client,
    hq.paired]
  simp [cutHyphen?_append _ hdigits]

/-- A name is read as the service that its parts spell. -/
theorem parse?_of_spells (hq : q.Spells s) (hname : q.text = name) : parse? name = some s := by
  have hrole : Role.ofToken? (String.ofList q.token.toList) = some s.role := by
    rw [String.ofList_toList]
    exact Role.ofToken?_eq_some.2 hq.token
  have hindex : Text.natOfDigits? q.digits.toList = some s.index := by
    refine Text.natOfDigits?_eq_some.2 ⟨fun h => hq.digits_ne (String.toList_eq_nil_iff.1 h), ?_⟩
    exact ⟨hq.digits, hq.index⟩
  unfold parse?
  rw [parts?_of_spells hq hname]
  simp only [Option.bind_eq_bind, Option.bind_some, hrole, hindex, Option.filter_some, hq.index_lt,
    decide_true, if_true, clients_tail]
  rfl

/-- A name that is read has parts that spell what it is read as. -/
theorem spells_of_parse? (h : parse? name = some s) :
    ∃ q : NameParts, q.text = name ∧ q.Spells s := by
  simp only [parse?, parts?, Option.bind_eq_bind, Option.bind_eq_some_iff, Prod.exists,
    Option.pure_def, Option.some.injEq, Prod.mk.injEq, Option.filter_eq_some_iff] at h
  obtain ⟨token, digits, tail, ⟨token', rest, htoken, digits', tail', hdigits, htoken', hdigits',
    htail'⟩, role, hrole, index, ⟨hindex, hlt⟩, el, cl, hclients, rfl⟩ := h
  subst token' digits' tail'
  obtain ⟨⟨client, paired⟩, hcut, hkinds⟩ := List.exists_of_findSome?_eq_some hclients
  obtain ⟨-, hname⟩ := cutHyphen?_eq_some.1 htoken
  obtain ⟨-, rfl⟩ := cutHyphen?_eq_some.1 hdigits
  obtain rfl := mem_hyphenCuts.1 hcut
  obtain ⟨hne, hall, hvalue⟩ := Text.natOfDigits?_eq_some.1 hindex
  obtain ⟨hclient, hpaired⟩ := clientsOf?_eq_some hkinds index
  refine ⟨⟨String.ofList token, String.ofList digits, String.ofList client, String.ofList paired⟩,
    ?_, ?_⟩
  · rw [← String.toList_inj, NameParts.text_toList, hname]
    simp
  · exact {
      token := Role.ofToken?_eq_some.1 hrole
      digits_ne := fun h => hne (by simpa using h)
      digits := by simpa using hall
      index := by simpa using hvalue
      index_lt := of_decide_eq_true hlt
      client := hclient
      paired := hpaired }

/-- A name is accepted exactly when it can be cut into parts that spell a service. -/
theorem parse_eq_ok_iff :
    parse name = .ok s ↔ ∃ q : NameParts, q.text = name ∧ q.Spells s := by
  rw [parse_eq_ok]
  exact ⟨spells_of_parse?, fun ⟨_, hname, hq⟩ => parse?_of_spells hq hname⟩

/-- A name has the parts of one service at most. -/
theorem spells_unique (hq : q.Spells s) (hq' : q'.Spells s') (htext : q.text = q'.text) :
    q = q' ∧ s = s' := by
  have hs : s = s' := Option.some.inj ((parse?_of_spells hq htext).symm.trans
    (parse?_of_spells hq' rfl))
  have hparts := (parts?_of_spells hq htext).symm.trans (parts?_of_spells hq' rfl)
  simp only [Option.some.injEq, Prod.mk.injEq, String.toList_inj] at hparts
  obtain ⟨htoken, hdigits, -⟩ := hparts
  refine ⟨?_, hs⟩
  have hclient : q.client = q'.client := by rw [hq.client, hq'.client, hs]
  have hpaired : q.paired = q'.paired := by rw [hq.paired, hq'.paired, hs]
  cases q
  cases q'
  simp_all

/-- A name that is read passes the quick check. -/
theorem looksLikeNodeService_of_spells (hq : q.Spells s) (hname : q.text = name) :
    looksLikeNodeService name = true := by
  have hrole : Role.ofToken? (String.ofList q.token.toList) = some s.role := by
    rw [String.ofList_toList]
    exact Role.ofToken?_eq_some.2 hq.token
  have hne : q.digits.toList.isEmpty = false := by
    simpa using hq.digits_ne
  rw [looksLikeNodeService, parts?_of_spells hq hname]
  simp only [hrole, hne, List.all_eq_true.2 hq.digits]
  rfl

/-! ## Rendering a name -/

/-- The parts of a rendered name. -/
def renderedParts (s : ServiceName) (nodeCount : Nat) : NameParts :=
  ⟨s.role.token, padIndex (indexWidth nodeCount) s.index, s.client, s.paired⟩

/-- The parts that a service is rendered with spell it. -/
theorem renderedParts_spells (nodeCount : Nat) (hindex : s.index < wordCount) :
    (s.renderedParts nodeCount).Spells s where
  token := .inl rfl
  digits_ne := fun h => by
    have hne := padIndex_isEmpty (indexWidth nodeCount) s.index
    rw [show padIndex (indexWidth nodeCount) s.index = "" from h] at hne
    cases hne
  digits := fun _ hc => isDigit_of_mem_padIndex hc
  index := (Text.natOfDigits?_eq_some.1 (natOfDigits?_padIndex _ _)).2.2
  index_lt := hindex
  client := rfl
  paired := rfl

/-- Reading is exact: a text is read as a service exactly when it has parts that spell it, no text
has such parts in two ways, and whatever is read passes the quick check.  Reading undoes rendering
for a network of any size, and in a rendered name an index up to that size has just as many digits
as the size. -/
theorem parse_exact :
    (∀ name s, parse name = .ok s ↔ ∃ q : NameParts, q.text = name ∧ q.Spells s) ∧
    (∀ (q q' : NameParts) (s s' : ServiceName), q.Spells s → q'.Spells s' → q.text = q'.text →
      q = q' ∧ s = s') ∧
    (∀ name s, parse name = .ok s → looksLikeNodeService name = true) ∧
    ∀ (s : ServiceName) (nodeCount : Nat), s.index < wordCount →
      parse (s.render nodeCount) = .ok s ∧
      ∃ q : NameParts, q.text = s.render nodeCount ∧ q.Spells s ∧
        (s.index ≤ nodeCount → q.digits.length = indexWidth nodeCount) := by
  refine ⟨fun _ _ => parse_eq_ok_iff, fun _ _ _ _ => spells_unique, fun name s h => ?_,
    fun s nodeCount hindex => ?_⟩
  · obtain ⟨q, hname, hq⟩ := parse_eq_ok_iff.1 h
    exact looksLikeNodeService_of_spells hq hname
  · refine ⟨parse_render nodeCount hindex, s.renderedParts nodeCount, rfl,
      renderedParts_spells nodeCount hindex, fun hle => ?_⟩
    rw [renderedParts, length_padIndex]
    exact Nat.max_eq_left (length_toDigits_le_indexWidth hle)

/-- A validator of `nimbus` beside `nimbus-eth1` has a name with five hyphens, which is read by its
parts alone.  In a network of 100 nodes its index has three digits. -/
theorem parse_exact_hyphenated :
    (∃ q : NameParts, q.text = "validator-0007-nimbus-nimbus-eth1" ∧
      q.Spells ⟨.validator, 7, .nimbusEth1, .nimbus⟩) ∧
    7 < wordCount ∧ 7 ≤ 100 ∧
    ∃ q : NameParts, q.text = "vc-007-nimbus-nimbus-eth1" ∧
      q.Spells ⟨.validator, 7, .nimbusEth1, .nimbus⟩ ∧ q.digits.length = 3 := by
  have hread : parse "validator-0007-nimbus-nimbus-eth1" =
      .ok ⟨.validator, 7, .nimbusEth1, .nimbus⟩ := parse_eq_ok.2 (by decide +kernel)
  have hrendered : (ServiceName.mk .validator 7 .nimbusEth1 .nimbus).render 100 =
      "vc-007-nimbus-nimbus-eth1" := by decide +kernel
  obtain ⟨hgrammar, -, -, hrender⟩ := parse_exact
  obtain ⟨-, q, hname, hq, hwidth⟩ :=
    hrender ⟨.validator, 7, .nimbusEth1, .nimbus⟩ 100 (by decide)
  refine ⟨(hgrammar _ _).1 hread, by decide, by decide, q, hname.trans hrendered, hq, ?_⟩
  rw [hwidth (show 7 ≤ 100 by decide)]
  decide +kernel

end ServiceName
end DevnetChaos
