import QuadClient.Proofs.Statement.Pieces
import QuadClient.Rdf.BlankLabel

/-!
# Which variables are replaced

In a query the name of a variable is a run of letters, digits and underscores. The reader that
puts terms into a text knows nothing of such runs: for it a name goes on to the next delimiter. A
bound variable in front of a delimiter, or at the end of the text, is replaced wherever it stands
outside quoted regions and backslash pairs. In front of a line feed, a brace, an operator or
another variable the reader looks up a longer name, and where that is not bound the variable
stays.
-/

namespace QuadClient.Substitution

variable {lookup : String → Option Term}

/-! ### Words -/

/-- A character of the name of a variable: a letter, a digit or an underscore. -/
def isWordChar (c : Char) : Bool :=
  BlankLabel.isFirst c && c != ':'

/-- A name that a variable of a query can have. -/
def IsWord (word : List Char) : Prop :=
  word ≠ [] ∧ ∀ c ∈ word, isWordChar c = true

/-- A character that the reader does not just copy. -/
def IsMark (c : Char) : Prop :=
  c = '\\' ∨ IsQuote c ∨ c = '?'

theorem not_isMark_of_isWordChar {c : Char} (h : isWordChar c = true) : ¬ IsMark c := by
  rintro (rfl | (rfl | rfl) | rfl) <;> revert h <;> decide

/-- A character of a word is no delimiter. -/
theorem undelimited_of_isWordChar {c : Char} (h : isWordChar c = true) :
    isDelimiter c = false := by
  cases hdelimiter : isDelimiter c with
  | false => rfl
  | true =>
    have hmem : c ∈ [' ', ',', ')', '(', ';', '.'] := of_decide_eq_true hdelimiter
    simp only [List.mem_cons, List.not_mem_nil, or_false] at hmem
    rcases hmem with rfl | rfl | rfl | rfl | rfl | rfl <;> revert h <;> decide

/-! ### Places outside quotes -/

/-- The text ends outside quoted regions and backslash pairs. A quoted region goes on to the next
mark like the one that opened it, and a backslash has no effect in there. -/
inductive Outside : List Char → Prop where
  /-- the empty text -/
  | nil : Outside []
  /-- a character that is no part of either -/
  | char {c : Char} {s : List Char} : c ≠ '\\' → ¬ IsQuote c → Outside s → Outside (c :: s)
  /-- a backslash and the character behind it -/
  | pair {c : Char} {s : List Char} : Outside s → Outside ('\\' :: c :: s)
  /-- a quoted region -/
  | quotes {mark : Char} {body s : List Char} :
    IsQuote mark → mark ∉ body → Outside s → Outside (mark :: (body ++ mark :: s))

/-- Characters without a mark may stand in front of a text that ends outside. -/
theorem Outside.append {n s : List Char} (hn : ∀ c ∈ n, ¬ IsMark c) (h : Outside s) :
    Outside (n ++ s) := by
  induction n with
  | nil => exact h
  | cons c n ih =>
    have hc := hn c (by simp)
    exact .char (fun e => hc (Or.inl e)) (fun e => hc (Or.inr (Or.inl e)))
      (ih fun d hd => hn d (by simp [hd]))

/-- Behind a character that is no mark the text still ends outside. -/
theorem Outside.tail {c : Char} {s : List Char} (hc : ¬ IsMark c) (h : Outside (c :: s)) :
    Outside s := by
  cases h with
  | char _ _ h => exact h
  | pair _ => exact absurd (Or.inl rfl) hc
  | quotes hquote _ _ => exact absurd (Or.inr (Or.inl hquote)) hc

/-- So it does behind any number of them. -/
theorem Outside.behind {n s : List Char} (hn : ∀ c ∈ n, ¬ IsMark c) (h : Outside (n ++ s)) :
    Outside s := by
  induction n with
  | nil => exact h
  | cons c n ih => exact ih (fun d hd => hn d (by simp [hd])) (h.tail (hn c (by simp)))

/-- No bound name that begins in `before` holds a mark; `behind` is the text behind it. -/
def NamesPlain (lookup : String → Option Term) (before behind : List Char) : Prop :=
  ∀ a b, before = a ++ '?' :: b → Outside a → ∀ t, term? lookup (b ++ behind) = some t →
    ∀ c ∈ (name (b ++ behind)).toList, ¬ IsMark c

theorem term?_eq_some {s : List Char} {t : Term} :
    term? lookup s = some t ↔ name s ≠ "" ∧ lookup (name s) = some t := by
  by_cases hempty : name s = "" <;> simp [term?, hempty]

/-- No bound name holds a mark if none does at all. -/
theorem namesPlain_of_forall (h : ∀ n t, lookup n = some t → ∀ c ∈ n.toList, ¬ IsMark c)
    (before behind : List Char) : NamesPlain lookup before behind :=
  fun _ _ _ _ t ht => h _ t (term?_eq_some.1 ht).2

theorem NamesPlain.tail {n before behind : List Char} (hn : ∀ a, Outside a → Outside (n ++ a))
    (h : NamesPlain lookup (n ++ before) behind) : NamesPlain lookup before behind := by
  intro a b hsplit ha
  exact h (n ++ a) b (by rw [hsplit, List.append_assoc]) (hn a ha)

/-- A name without a question mark ends in front of the next one. -/
theorem name_in_front {r s : List Char} (h : '?' ∉ (name (r ++ '?' :: s)).toList) :
    ∃ r', r = (name (r ++ '?' :: s)).toList ++ r' ∧
      ∀ c ∈ (r' ++ '?' :: s).head?, isDelimiter c = true := by
  rw [toList_name] at h ⊢
  induction r with
  | nil =>
    have hfree : isDelimiter '?' = false := by decide
    simp [hfree] at h
  | cons c r ih =>
    -- A delimiter ends the name here, in front of the question mark.
    cases hc : isDelimiter c with
    | true => exact ⟨c :: r, by simp [hc], by simpa using hc⟩
    | false =>
      rw [List.cons_append, List.takeWhile_cons_of_pos (by simpa using hc)] at h ⊢
      obtain ⟨r', hr, hhead⟩ := ih fun e => h (by simp [e])
      exact ⟨r', by rw [List.cons_append, ← hr], hhead⟩

/-- The pieces of `before`, whatever the pieces of the text behind it are. -/
def Leads (lookup : String → Option Term) (before behind : List Char) (front : List Piece) : Prop :=
  front.flatMap Piece.source = before ∧
    ∀ pieces, Cut lookup behind pieces → Cut lookup (before ++ behind) (front ++ pieces)

/-- One more piece in front of those that are there. -/
theorem Leads.piece {p : Piece} {before behind : List Char} {front : List Piece}
    (hfits : p.Fits lookup (before ++ behind)) (h : Leads lookup before behind front) :
    Leads lookup (p.source ++ before) behind (p :: front) := by
  refine ⟨by rw [List.flatMap_cons, h.1], fun pieces hpieces => ?_⟩
  rw [List.append_assoc]
  exact .piece hfits (h.2 pieces hpieces)

/-- A text that ends outside quotes is cut on its own in front of a question mark. The induction is
on its length: a reference takes its whole name with it, and as no mark is in the name, what
stands behind it is outside as well. -/
theorem exists_leads {before s : List Char} (houtside : Outside before)
    (hplain : NamesPlain lookup before ('?' :: s)) :
    ∃ front, Leads lookup before ('?' :: s) front := by
  induction hlength : before.length using Nat.strong_induction_on generalizing before with
  | _ k ih =>
  subst hlength
  cases houtside with
  | nil => exact ⟨[], rfl, fun _ h => h⟩
  | @char c r hslash hquote hr =>
    have hstep : ∀ a, Outside a → Outside ([c] ++ a) := fun a ha => .char hslash hquote ha
    have hrest : ∃ front, Leads lookup r ('?' :: s) front :=
      ih _ (by simp) hr (hplain.tail hstep) rfl
    by_cases hmark : c = '?'
    · subst hmark
      -- No bound name stands behind the question mark, and what is behind it is cut by the
      -- induction.
      cases hterm : term? lookup (r ++ '?' :: s) with
      | none =>
        obtain ⟨front, hfront⟩ := hrest
        have hfits : (Piece.kept _).Fits lookup (r ++ '?' :: s) := ⟨rfl, term?_eq_none.1 hterm⟩
        exact ⟨_, hfront.piece hfits⟩
      | some t =>
        -- The name has no question mark in it, so it ends within `r`.
        have hfree := hplain [] r rfl .nil t hterm
        obtain ⟨hne, hbound⟩ := term?_eq_some.1 hterm
        obtain ⟨r', hsplit, hhead⟩ := name_in_front fun e => hfree _ e (Or.inr (Or.inr rfl))
        have hundelimited : ∀ c ∈ (name (r ++ '?' :: s)).toList, isDelimiter c = false :=
          fun _ => undelimited_of_mem_name
        generalize name (r ++ '?' :: s) = n at *
        subst hsplit
        have hname : ∀ a, Outside a → Outside ('?' :: n.toList ++ a) :=
          fun a ha => hstep _ (ha.append hfree)
        have hbehind : NamesPlain lookup r' ('?' :: s) :=
          NamesPlain.tail hname (by simpa using hplain)
        have hshort : r'.length < ('?' :: (n.toList ++ r')).length := by
          rw [List.length_cons, List.length_append]
          omega
        obtain ⟨front, hfront⟩ := ih r'.length hshort (hr.behind hfree) hbehind rfl
        have hfits : (Piece.reference n).Fits lookup (r' ++ '?' :: s) :=
          ⟨hne, ⟨t, hbound⟩, hundelimited, hhead⟩
        exact ⟨_, hfront.piece hfits⟩
    · obtain ⟨front, hfront⟩ := hrest
      have hfits : (Piece.char c).Fits lookup (r ++ '?' :: s) := ⟨hslash, hquote, hmark⟩
      exact ⟨_, hfront.piece hfits⟩
  -- A backslash takes the next character with it, whatever that is.
  | @pair c r hr =>
    have hbehind : NamesPlain lookup r ('?' :: s) :=
      NamesPlain.tail (n := ['\\', c]) (fun a ha => .pair ha) hplain
    have hshort : r.length < ('\\' :: c :: r).length := by
      rw [List.length_cons, List.length_cons]
      omega
    obtain ⟨front, hfront⟩ := ih r.length hshort hr hbehind rfl
    have hfits : (Piece.pair c).Fits lookup (r ++ '?' :: s) := trivial
    exact ⟨_, hfront.piece hfits⟩
  -- A region is one piece, whatever stands in it.
  | @quotes mark body r hquote hbody hr =>
    have hstep : ∀ a, Outside a → Outside (mark :: (body ++ [mark]) ++ a) := by
      intro a ha
      simpa using Outside.quotes hquote hbody ha
    have hbehind : NamesPlain lookup r ('?' :: s) :=
      NamesPlain.tail hstep (by simpa using hplain)
    have hshort : r.length < (mark :: (body ++ mark :: r)).length := by
      rw [List.length_cons, List.length_append, List.length_cons]
      omega
    obtain ⟨front, hfront⟩ := ih r.length hshort hr hbehind rfl
    have hfits : (Piece.quotes mark body).Fits lookup (r ++ '?' :: s) := ⟨hquote, hbody⟩
    exact ⟨_, by simpa [Piece.source] using hfront.piece hfits⟩

/-! ### What becomes of a variable -/

/-- The variable behind `before` is one of the references: the text of its term stands in its
place, and what stands behind it is read as a text of its own. -/
def ReplacedAt (lookup : String → Option Term) (before word rest : List Char) : Prop :=
  ∃ t front behind, lookup (String.ofList word) = some t ∧
    front.flatMap Piece.source = before ∧
    Cut lookup (before ++ '?' :: (word ++ rest))
      (front ++ .reference (String.ofList word) :: behind) ∧
    (substitute lookup (String.ofList (before ++ '?' :: (word ++ rest)))).toList =
      front.flatMap (Piece.output lookup) ++
        (t.inline.toList ++ (substitute lookup (String.ofList rest)).toList)

/-- The variable behind `before` stays as it is, and what stands behind it is read as a text of its
own. -/
def KeptAt (lookup : String → Option Term) (before word rest : List Char) : Prop :=
  ∃ front behind, front.flatMap Piece.source = before ∧
    Cut lookup (before ++ '?' :: (word ++ rest)) (front ++ .kept (name (word ++ rest)) :: behind) ∧
    (substitute lookup (String.ofList (before ++ '?' :: (word ++ rest)))).toList =
      front.flatMap (Piece.output lookup) ++
        '?' :: (word ++ (substitute lookup (String.ofList rest)).toList)

/-- What is written for a text is told by any cut of it. -/
theorem toList_substitute_of_cut {text : List Char} {pieces : List Piece}
    (h : Cut lookup text pieces) :
    (substitute lookup (String.ofList text)).toList = pieces.flatMap (Piece.output lookup) := by
  simp [substitute, fromMode_cut h]

/-- A piece of a text fits where the pieces behind it begin. -/
theorem Cut.fits {text : List Char} {front behind : List Piece} {p : Piece}
    (h : Cut lookup text (front ++ p :: behind)) :
    p.Fits lookup (behind.flatMap Piece.source) := by
  induction front generalizing text with
  | nil =>
    -- The piece is the first one of the text.
    cases h with
    | piece hfits hrest => rwa [hrest.source]
  | cons q front ih =>
    cases h with
    | piece _ hrest => exact ih hrest

variable {before word rest : List Char}

/-- A delimiter follows each reference, or nothing. -/
theorem ReplacedAt.delimited (h : ReplacedAt lookup before word rest) :
    ∀ c ∈ rest.head?, isDelimiter c = true := by
  obtain ⟨t, front, behind, -, hfront, hcut, -⟩ := h
  have hbehind : behind.flatMap Piece.source = rest := by
    have hsource := hcut.source
    simpa [hfront, Piece.source] using hsource
  obtain ⟨-, -, -, hhead⟩ := hcut.fits
  rwa [hbehind] at hhead

/-- A bound word in front of a delimiter is a reference, whatever pieces lead to it. -/
theorem replacedAt_of_leads {t : Term} {front : List Piece} (hword : IsWord word)
    (hbound : lookup (String.ofList word) = some t)
    (hfront : Leads lookup before ('?' :: (word ++ rest)) front)
    (hdelimited : ∀ c ∈ rest.head?, isDelimiter c = true) :
    ReplacedAt lookup before word rest := by
  obtain ⟨behind, hbehind⟩ := exists_cut lookup rest
  have hne : String.ofList word ≠ "" := fun e => hword.1 (by simpa using congrArg String.toList e)
  have hfits : (Piece.reference (String.ofList word)).Fits lookup rest :=
    ⟨hne, ⟨t, hbound⟩, fun c hc => undelimited_of_isWordChar (hword.2 c (by simpa using hc)),
      hdelimited⟩
  have hpieces : Cut lookup ('?' :: (word ++ rest))
      (.reference (String.ofList word) :: behind) := by
    simpa [Piece.source] using Cut.piece hfits hbehind
  have hcut := hfront.2 _ hpieces
  refine ⟨t, front, behind, hbound, hfront.1, hcut, ?_⟩
  rw [toList_substitute_of_cut hcut, toList_substitute_of_cut hbehind]
  simp [Piece.output, hbound]

/-- A word is copied character by character. -/
theorem cut_word (hword : ∀ c ∈ word, isWordChar c = true) {behind : List Piece}
    (h : Cut lookup rest behind) : Cut lookup (word ++ rest) (word.map .char ++ behind) := by
  induction word with
  | nil => exact h
  | cons c word ih =>
    have hmark := not_isMark_of_isWordChar (hword c (by simp))
    have hfits : (Piece.char c).Fits lookup (word ++ rest) :=
      ⟨fun e => hmark (Or.inl e), fun e => hmark (Or.inr (Or.inl e)),
        fun e => hmark (Or.inr (Or.inr e))⟩
    exact .piece hfits (ih fun d hd => hword d (by simp [hd]))

/-- A word whose longer name is not bound stays, whatever pieces lead to it. -/
theorem keptAt_of_leads {front : List Piece} (hword : IsWord word)
    (hunbound : lookup (name (word ++ rest)) = none)
    (hfront : Leads lookup before ('?' :: (word ++ rest)) front) :
    KeptAt lookup before word rest := by
  -- The question mark is a piece of its own, and so is each character of the word.
  obtain ⟨behind, hbehind⟩ := exists_cut lookup rest
  have hfits : (Piece.kept (name (word ++ rest))).Fits lookup (word ++ rest) :=
    ⟨rfl, Or.inr hunbound⟩
  have hcut := hfront.2 _ (.piece hfits (cut_word hword.2 hbehind))
  refine ⟨front, _, hfront.1, hcut, ?_⟩
  rw [toList_substitute_of_cut hcut, toList_substitute_of_cut hbehind]
  simp [Piece.output, Piece.source, List.flatMap_map]

/-- **A bound variable is replaced if and only if a delimiter follows, or the end.** Take a bound
variable that stands outside quoted regions and backslash pairs, in a text where no bound name in
front of it holds a quote, a backslash or a question mark. If a delimiter follows, or nothing, the
text of its term stands in its place; if anything else follows it does not. Then the longer name
that goes on to the next delimiter is looked up, and where that is not bound the variable stays. -/
theorem replacedAt_iff_delimited (hword : IsWord word)
    (hbound : (lookup (String.ofList word)).isSome) (houtside : Outside before)
    (hplain : NamesPlain lookup before ('?' :: (word ++ rest))) :
    (ReplacedAt lookup before word rest ↔ ∀ c ∈ rest.head?, isDelimiter c = true) ∧
      (lookup (name (word ++ rest)) = none → KeptAt lookup before word rest) := by
  obtain ⟨t, ht⟩ := Option.isSome_iff_exists.1 hbound
  obtain ⟨front, hfront⟩ := exists_leads houtside hplain
  exact ⟨⟨ReplacedAt.delimited, replacedAt_of_leads hword ht hfront⟩,
    fun hunbound => keptAt_of_leads hword hunbound hfront⟩

/-- A lookup that binds these names and nothing else. -/
def binds (names : List String) (name : String) : Option Term :=
  if name ∈ names then some (.iri ⟨"urn:v", by decide⟩) else none

theorem isWord_x : IsWord ['x'] := by
  have hx : isWordChar 'x' = true := by decide
  simp [IsWord, hx]

/-- A lookup that binds one word binds no name with a mark in it. -/
theorem bindsX_plain (n : String) (t : Term) (hn : binds ["x"] n = some t) :
    ∀ c ∈ n.toList, ¬ IsMark c := by
  by_cases hx : n = "x"
  · subst hx
    intro c hc
    exact not_isMark_of_isWordChar (isWord_x.2 c hc)
  · simp [binds, hx] at hn

/-- A quoted region that ends in a backslash, a backslash pair, and another variable. -/
def hardFront : List Char :=
  ['\'', '?', 'x', '\\', '\'', '\\', '?', 'x', '?', 'y', '(']

theorem outside_hardFront : Outside hardFront := by
  have hletters : Outside ['x', '?', 'y', '('] :=
    .char (by decide) (by decide) (.char (by decide) (by decide)
      (.char (by decide) (by decide) (.char (by decide) (by decide) .nil)))
  have hbody : '\'' ∉ ['?', 'x', '\\'] := by decide
  exact .quotes (Or.inr rfl) hbody (.pair hletters)

theorem replacedAt_iff_delimited_hardFront :
    (IsWord ['x'] ∧ (binds ["x"] (String.ofList ['x'])).isSome ∧ Outside hardFront ∧
      NamesPlain (binds ["x"]) hardFront ('?' :: (['x'] ++ [')', '?', 'x', '\n']))) ∧
      ReplacedAt (binds ["x"]) hardFront ['x'] [')', '?', 'x', '\n'] := by
  have hbound : (binds ["x"] (String.ofList ['x'])).isSome := by decide
  have hplain := namesPlain_of_forall bindsX_plain hardFront
    ('?' :: (['x'] ++ [')', '?', 'x', '\n']))
  have hdelimited : ∀ c ∈ [')', '?', 'x', '\n'].head?, isDelimiter c = true := by
    intro c hc
    cases hc
    rfl
  exact ⟨⟨isWord_x, hbound, outside_hardFront, hplain⟩,
    (replacedAt_iff_delimited isWord_x hbound outside_hardFront hplain).1.2 hdelimited⟩

/-- Every bound variable of the text that stands outside quoted regions and backslash pairs is
replaced, whatever follows its name. The name goes as far as there are word characters. -/
def ReplacesWords (lookup : String → Option Term) (text : List Char) : Prop :=
  ∀ before word rest, text = before ++ '?' :: (word ++ rest) → IsWord word →
    (∀ c ∈ rest.head?, isWordChar c = false) → (lookup (String.ofList word)).isSome →
    Outside before → ReplacedAt lookup before word rest

/-- In front of a line feed, a tab, a brace, an operator or another variable the variable stays.
And a bound name with a question mark in it takes the variable behind that with it. -/
theorem not_replacesWords_undelimited :
    (∀ c ∈ ['\n', '\t', '\x7b', '\x7d', '=', '+', '?'],
      ¬ ReplacesWords (binds ["x"]) ['?', 'x', c]) ∧
      ¬ ReplacesWords (binds ["x", "a?x"]) ['?', 'a', '?', 'x'] := by
  constructor
  · have hneither : (['\n', '\t', '\x7b', '\x7d', '=', '+', '?'].all fun c =>
        !isWordChar c && !isDelimiter c) = true := by decide
    intro c hc h
    have hboth := List.all_eq_true.1 hneither c hc
    simp only [Bool.and_eq_true, Bool.not_eq_true'] at hboth
    -- The word ends where the character stands, since that is no character of a word.
    have hreplaced := h [] ['x'] [c] rfl isWord_x (by simpa using hboth.1) (by decide) .nil
    have hdelimited := hreplaced.delimited c rfl
    rw [hboth.2] at hdelimited
    cases hdelimited
  · -- The text is one reference, and that is not the variable `x`.
    intro h
    have houtside : Outside ['?', 'a'] :=
      .char (by decide) (by decide) (.char (by decide) (by decide) .nil)
    obtain ⟨t, front, behind, -, -, hcut, -⟩ :=
      h ['?', 'a'] ['x'] [] rfl isWord_x (by simp) (by decide) houtside
    have hfits : (Piece.reference "a?x").Fits (binds ["x", "a?x"]) [] :=
      ⟨by decide, ⟨_, rfl⟩, by simp [isDelimiter], by simp⟩
    have hwhole : Cut (binds ["x", "a?x"]) ['?', 'a', '?', 'x'] [.reference "a?x"] :=
      .piece hfits .done
    have hpieces := hcut.unique hwhole
    have hmem : Piece.reference "x" ∈ [Piece.reference "a?x"] := by
      rw [← hpieces]
      simp
    simp at hmem

example : substitute (binds ["x"]) "select ?x (?x,'?x') ?x\n?x" =
    "select <urn:v> (<urn:v>,'?x') ?x\n<urn:v>" := by
  decide

end QuadClient.Substitution
