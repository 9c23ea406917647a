import Mathlib.Data.List.TakeWhile
import QuadClient.Iri.Basic
import QuadClient.Proofs.Outcome

/-!
# The characters of an absolute IRI

The syntax check reads a text component by component, and each component lets only some
characters through. What passes the check is therefore made of inner characters alone: no
blank of ASCII, no angle bracket, no brace and no backslash stands in an IRI.

Each reader has one lemma: what it accepts is made of inner characters.
-/

namespace QuadClient.Iri.Syntax

open QuadClient.Text

/-! ### Inner characters -/

/-- Characters that may stand somewhere in an IRI. -/
def isInner (c : Char) : Bool :=
  isQuery c || c ∈ ['#', '[', ']', '%']

/-- A text of inner characters. -/
def Inner (s : List Char) : Prop := ∀ c ∈ s, isInner c = true

theorem isInner_of_isPath {c : Char} (h : isPath c = true) : isInner c = true := by
  simp [isInner, isQuery, isFragment, h]

theorem isInner_of_isQuery {c : Char} (h : isQuery c = true) : isInner c = true := by
  simp [isInner, h]

theorem isInner_of_isFragment {c : Char} (h : isFragment c = true) : isInner c = true := by
  simp [isInner, isQuery, h]

theorem isInner_of_isName {c : Char} (h : isName c = true) : isInner c = true :=
  isInner_of_isPath (by simp [isPath, h])

theorem isInner_of_isPlain {c : Char} (h : isPlain c = true) : isInner c = true :=
  isInner_of_isName (by simp [isName, h])

theorem isInner_of_isAlphanum {c : Char} (h : c.isAlphanum = true) : isInner c = true :=
  isInner_of_isPlain (by simp [isPlain, h])

theorem isInner_of_isUserInfo {c : Char} (h : isUserInfo c = true) : isInner c = true := by
  simp only [isUserInfo, Bool.or_eq_true, beq_iff_eq] at h
  rcases h with h | rfl
  · exact isInner_of_isName h
  · decide

theorem isInner_of_isScheme {c : Char} (h : isScheme c = true) : isInner c = true := by
  simp only [isScheme, Bool.or_eq_true, beq_iff_eq] at h
  rcases h with ((h | rfl) | rfl) | rfl
  · exact isInner_of_isAlphanum h
  all_goals decide

theorem isInner_of_isHexDigit {c : Char} (h : isHexDigit c = true) : isInner c = true := by
  apply isInner_of_isAlphanum
  simp only [isHexDigit, Bool.or_eq_true, Bool.and_eq_true, decide_eq_true_eq] at h
  -- The bounds of the small hexadecimal digits are narrower than those of the small letters.
  rcases h with (h | ⟨ha, hf⟩) | ⟨ha, hf⟩
  · exact Bool.or_eq_true_iff.2 (Or.inr h)
  · have hz : c ≤ 'z' := Char.le_trans hf (by decide)
    have hlower : c.isLower = true :=
      Bool.and_eq_true_iff.2 ⟨decide_eq_true ha, decide_eq_true hz⟩
    have halpha : c.isAlpha = true := Bool.or_eq_true_iff.2 (Or.inr hlower)
    exact Bool.or_eq_true_iff.2 (Or.inl halpha)
  · have hz : c ≤ 'Z' := Char.le_trans hf (by decide)
    have hupper : c.isUpper = true := decide_eq_true ⟨ha, hz⟩
    have halpha : c.isAlpha = true := Bool.or_eq_true_iff.2 (Or.inl hupper)
    exact Bool.or_eq_true_iff.2 (Or.inl halpha)

theorem Inner.append {a b : List Char} (ha : Inner a) (hb : Inner b) : Inner (a ++ b) := by
  intro c hc
  rcases List.mem_append.1 hc with hc | hc
  · exact ha c hc
  · exact hb c hc

theorem Inner.cons {c : Char} {s : List Char} (hc : isInner c = true) (hs : Inner s) :
    Inner (c :: s) := by
  intro d hd
  rcases List.mem_cons.1 hd with rfl | hd
  · exact hc
  · exact hs d hd

theorem inner_nil : Inner [] := by simp [Inner]

/-- A run of characters of a class, and an inner rest, are inner together. -/
theorem inner_of_dropWhile {p : Char → Bool} (hp : ∀ c, p c = true → isInner c = true)
    {s : List Char} (h : Inner (s.dropWhile p)) : Inner s := by
  rw [← List.takeWhile_append_dropWhile (p := p) (l := s)]
  exact Inner.append (fun c hc => hp c (List.mem_takeWhile_imp hc)) h

/-! ### Components -/

/-- What a scan passes over is inner; `hn` says so of the digits of an open escape. -/
theorem scanFrom_inner {ends allowed : Char → Bool}
    (hallowed : ∀ c, allowed c = true → isInner c = true) {n : Nat} {s rest : List Char}
    (hn : Inner (s.take n)) (h : scanFrom ends allowed n s = .ok rest) (hrest : Inner rest) :
    Inner s := by
  fun_induction scanFrom ends allowed n s with
  | case1 => exact inner_nil
  | case2 n c r ih =>
    -- A digit of an open escape is among the first `n` characters, which are inner by `hn`.
    have hc : isInner c = true := hn c (by simp)
    exact Inner.cons hc (ih (fun d hd => hn d (by simp [hd])) h)
  | case3 c r hends =>
    cases h
    -- A percent sign opens an escape, and its two digits are the next ones that `hn` has to speak
    -- of.
    exact hrest
  | case4 r hpair hends ih =>
    refine Inner.cons (by decide) (ih ?_ h)
    match r, hpair with
    | a :: b :: r, hpair =>
      simp only [beginsWithPair, Bool.and_eq_true] at hpair
      intro d hd
      have hd : d = a ∨ d = b := by simpa using hd
      rcases hd with rfl | rfl
      · exact isInner_of_isHexDigit hpair.1
      · exact isInner_of_isHexDigit hpair.2
  | case5 => cases h
  | case6 c r hends hpercent hc ih =>
    exact Inner.cons (hallowed c hc) (ih inner_nil h)
  | case7 => cases h

/-- A scan begins with no escape open. -/
theorem scan_inner {ends allowed : Char → Bool}
    (hallowed : ∀ c, allowed c = true → isInner c = true) {s rest : List Char}
    (h : scan ends allowed s = .ok rest) (hrest : Inner rest) : Inner s :=
  scanFrom_inner hallowed (by simpa using inner_nil) h hrest

/-- A scan that stops in front of a character stops at one that ends the component. -/
theorem scan_rest {ends allowed : Char → Bool} {s rest : List Char} {c : Char}
    (h : scan ends allowed s = .ok (c :: rest)) : ends c = true := by
  unfold scan at h
  generalize (0 : Nat) = n at h
  fun_induction scanFrom ends allowed n s with
  | case1 => cases h
  | case2 n d r ih => exact ih h
  | case3 d r hends => cases h; exact hends
  | case4 r hpair hends ih => exact ih h
  | case5 => cases h
  | case6 d r hends hpercent hd ih => exact ih h
  | case7 => cases h

/-- A fragment is read to the end of the text, so all of it is inner. -/
theorem fragment_inner {s : List Char} (h : fragment s = .ok ()) : Inner s := by
  obtain ⟨rest, hscan, -⟩ := map_eq_ok.1 h
  cases rest with
  | nil => exact scan_inner (fun _ => isInner_of_isFragment) hscan inner_nil
  | cons c r => exact absurd (scan_rest hscan) (by simp)

/-- A query ends at the mark of a fragment or at the end of the text. -/
theorem query_inner {s : List Char} (h : query s = .ok ()) : Inner s := by
  obtain ⟨rest, hscan, hrest⟩ := bind_eq_ok.1 h
  refine scan_inner (fun _ => isInner_of_isQuery) hscan ?_
  cases rest with
  | nil => exact inner_nil
  | cons c r =>
    have hc : c = '#' := by simpa using scan_rest hscan
    subst hc
    exact Inner.cons (by decide) (fragment_inner hrest)

/-- A path ends at the mark of a query, at that of a fragment or at the end of the text. -/
theorem path_inner {s : List Char} (h : path s = .ok ()) : Inner s := by
  obtain ⟨rest, hscan, hrest⟩ := bind_eq_ok.1 h
  refine scan_inner (fun _ => isInner_of_isPath) hscan ?_
  cases rest with
  | nil => exact inner_nil
  | cons c r =>
    have hc : c = '?' ∨ c = '#' := by simpa using scan_rest hscan
    rcases hc with rfl | rfl
    · exact Inner.cons (by decide) (query_inner hrest)
    · exact Inner.cons (by decide) (fragment_inner hrest)

/-! ### Addresses in brackets -/

/-- A group is a run of hexadecimal digits. -/
theorem inner_of_group? {s r : List Char} (h : Address.group? s = some r) (hr : Inner r) :
    Inner s := by
  simp only [Address.group?] at h
  split at h
  · cases h
    exact inner_of_dropWhile (fun _ => isInner_of_isHexDigit) hr
  · cases h

/-- An octet is a run of digits. -/
theorem inner_of_octet? {s r : List Char} (h : Address.octet? s = some r) (hr : Inner r) :
    Inner s := by
  simp only [Address.octet?] at h
  split at h
  · cases h
  · split at h
    · cases h
    · cases h
      refine inner_of_dropWhile (fun c hc => isInner_of_isAlphanum ?_) hr
      simp [Char.isAlphanum, hc]

/-- A mark that is read is the one that was asked for. -/
theorem inner_of_mark? {mark : Char} (hmark : isInner mark = true) {s r : List Char}
    (h : Address.mark? mark s = some r) (hr : Inner r) : Inner s := by
  cases s with
  | nil => cases h
  | cons c s =>
    simp only [Address.mark?] at h
    split at h
    · next hc =>
      cases h
      subst hc
      exact Inner.cons hmark hr
    · cases h

/-- Four octets and the three points between them. -/
theorem inner_of_dotted? {s r : List Char} (h : Address.dotted? s = some r) (hr : Inner r) :
    Inner s := by
  simp only [Address.dotted?, Option.bind_eq_bind, Option.bind_eq_some_iff] at h
  obtain ⟨s₁, h₁, s₂, h₂, s₃, h₃, s₄, h₄, s₅, h₅, s₆, h₆, h₇⟩ := h
  have hpoint : isInner '.' = true := by decide
  have hs₅ : Inner s₅ := inner_of_mark? hpoint h₆ (inner_of_octet? h₇ hr)
  have hs₃ : Inner s₃ := inner_of_mark? hpoint h₄ (inner_of_octet? h₅ hs₅)
  exact inner_of_octet? h₁ (inner_of_mark? hpoint h₂ (inner_of_octet? h₃ hs₃))

/-- Induction on the room that is left for groups. -/
theorem inner_of_groups {room count : Nat} {s : List Char}
    (h : Inner (Address.groups count s room).rest) : Inner s := by
  induction room generalizing count s with
  | zero => exact h
  | succ room ih =>
    -- A group that is not the first one has its colon in front.
    have hcolon : ∀ t, (if count = 0 then some s else Address.mark? ':' s) = some t →
        Inner t → Inner s := by
      intro t ht hin
      split at ht
      · cases ht
        exact hin
      · exact inner_of_mark? (by decide) ht hin
    unfold Address.groups at h
    split at h
    · exact h
    · next t ht =>
      split at h
      · next r hr =>
        refine hcolon t ht ?_
        split at hr
        · cases hr
        · exact inner_of_dotted? hr h
      · split at h
        · next r hr => exact hcolon t ht (inner_of_group? hr (ih h))
        · exact h

theorem inner_of_isEmpty {s : List Char} (h : s.isEmpty = true) : Inner s := by
  rw [List.isEmpty_iff.1 h]
  exact inner_nil

/-- The groups of an address are inner, and so is what is behind a double colon. -/
theorem isValid_inner {s : List Char} (h : Address.isValid s = true) : Inner s := by
  simp only [Address.isValid] at h
  -- Either nothing is left behind the groups, or a double colon and the groups behind that.
  have hhead : Inner (Address.groups 0 s 8).rest := by
    split at h
    · exact inner_of_isEmpty h
    · split at h
      · cases h
      · split at h
        · next r hr =>
          have hend := inner_of_groups (inner_of_isEmpty h)
          rw [hr]
          exact Inner.cons (by decide) (Inner.cons (by decide) hend)
        · cases h
  exact inner_of_groups hhead

/-- An address of a future version: its number, a point, and characters of a name or colons. -/
theorem futureAddress_inner {s : List Char} (h : futureAddress s = .ok ()) : Inner s := by
  simp only [futureAddress] at h
  apply inner_of_dropWhile (fun _ => isInner_of_isHexDigit)
  split at h
  · cases h
  · next r hr =>
    rw [hr]
    refine Inner.cons (by decide) ?_
    split at h
    · cases h
    · split at h
      · cases h
      · split at h
        · cases h
        · next hfind =>
          intro c hc
          have hplain := List.find?_eq_none.1 hfind c hc
          simp only [Bool.not_eq_true, Bool.not_eq_false', Bool.or_eq_true, beq_iff_eq] at hplain
          rcases hplain with hplain | rfl
          · exact isInner_of_isPlain hplain
          · decide
  · cases h

/-- In brackets stands an address of a future version or one of groups. -/
theorem bracketed_inner {s : List Char} (h : bracketed s = .ok ()) : Inner s := by
  cases s with
  | nil => exact inner_nil
  | cons c r =>
    simp only [bracketed] at h
    split at h
    · next hc =>
      have hc : c = 'v' ∨ c = 'V' := by simpa using hc
      refine Inner.cons ?_ (futureAddress_inner h)
      rcases hc with rfl | rfl <;> decide
    · split at h
      · next hvalid => exact isValid_inner hvalid
      · cases h

/-! ### From the host to the whole -/

/-- A text is cut at its first closing bracket. -/
theorem closingBracket?_eq {s a b : List Char} (h : closingBracket? s = some (a, b)) :
    s = a ++ ']' :: b := by
  induction s generalizing a with
  | nil => cases h
  | cons c r ih =>
    simp only [closingBracket?] at h
    split at h
    · next hc =>
      cases h
      rw [hc]
      rfl
    · obtain ⟨⟨a', b'⟩, h', he⟩ := Option.map_eq_some_iff.1 h
      cases he
      rw [ih h']
      rfl

/-- The number of a port is a run of digits, with a path behind it. -/
theorem hostNumber_inner {s : List Char} (h : hostNumber s = .ok ()) : Inner s := by
  have hdigit : ∀ c : Char, c.isDigit = true → isInner c = true := fun c hc =>
    isInner_of_isAlphanum (by simp [Char.isAlphanum, hc])
  apply inner_of_dropWhile hdigit
  simp only [hostNumber] at h
  split at h
  · next hr =>
    rw [hr]
    exact inner_nil
  · next c r hr =>
    rw [hr]
    split at h
    · exact path_inner h
    · cases h

/-- A host is an address in brackets or a name, with a port or a path behind it. -/
theorem host_inner {s : List Char} (h : host s = .ok ()) : Inner s := by
  unfold host at h
  split at h
  · next r =>
    split at h
    · cases h
    · next inside after hsplit =>
      obtain ⟨⟨⟩, hinside, hafter⟩ := bind_eq_ok.1 h
      rw [closingBracket?_eq hsplit]
      refine Inner.cons (by decide) (Inner.append (bracketed_inner hinside) ?_)
      refine Inner.cons (by decide) ?_
      split at hafter
      · exact inner_nil
      · next c r =>
        split at hafter
        · next hc =>
          subst hc
          exact Inner.cons (by decide) (hostNumber_inner hafter)
        · split at hafter
          · exact path_inner hafter
          · cases hafter
  · -- A name that is not in brackets is scanned up to the port or the path.
    obtain ⟨rest, hscan, hrest⟩ := bind_eq_ok.1 h
    refine scan_inner (fun _ => isInner_of_isName) hscan ?_
    split at hrest
    · exact inner_nil
    · next c r =>
      split at hrest
      · next hc =>
        subst hc
        exact Inner.cons (by decide) (hostNumber_inner hrest)
      · exact path_inner hrest

/-- An authority is a host, with or without the user in front of it. -/
theorem authority_inner {s : List Char} (h : authority s = .ok ()) : Inner s := by
  obtain ⟨rest, hscan, hrest⟩ := bind_eq_ok.1 h
  split at hrest
  · exact scan_inner (fun _ => isInner_of_isUserInfo) hscan
      (Inner.cons (by decide) (host_inner hrest))
  -- Without user information the host is read from the beginning.
  · exact host_inner hrest

/-- Behind the scheme stands an authority after two slashes, or a path. -/
theorem hierarchy_inner {s : List Char} (h : hierarchy s = .ok ()) : Inner s := by
  unfold hierarchy at h
  split at h
  · exact Inner.cons (by decide) (Inner.cons (by decide) (authority_inner h))
  · exact path_inner h

/-- A scheme begins with a letter and ends with its colon. -/
theorem inner_of_afterScheme? {s rest : List Char} (h : afterScheme? s = some rest)
    (hrest : Inner rest) : Inner s := by
  cases s with
  | nil => cases h
  | cons c r =>
    simp only [afterScheme?] at h
    split at h
    · next hc =>
      split at h
      · next rest' hr =>
        cases h
        refine Inner.cons (isInner_of_isAlphanum (by simp [Char.isAlphanum, hc])) ?_
        apply inner_of_dropWhile (fun _ => isInner_of_isScheme)
        rw [hr]
        exact Inner.cons (by decide) hrest
      · cases h
    · cases h

/-- What passes the check has a scheme; a text without one fails, whatever else it is. -/
theorem check_inner {s : List Char} (h : check s = .ok ()) : Inner s := by
  unfold check at h
  split at h
  · next rest hscheme => exact inner_of_afterScheme? hscheme (hierarchy_inner h)
  · split at h
    · cases h
    · obtain ⟨_, _, he⟩ := bind_eq_ok.1 h
      cases he

end QuadClient.Iri.Syntax

namespace QuadClient.Iri

/-- An IRI is made of inner characters. -/
theorem inner_text (i : Iri) : Syntax.Inner i.text.toList := Syntax.check_inner i.valid

/-- A character that is not inner stands in no IRI. -/
theorem notMem_text {c : Char} (hc : Syntax.isInner c = false) (i : Iri) :
    c ∉ i.text.toList := by
  intro h
  rw [i.inner_text c h] at hc
  cases hc

end QuadClient.Iri
