import Mathlib.Data.List.Basic
import Mathlib.Data.List.TakeWhile
import QuadClient.Statement.Substitution

/-!
# The pieces of a text

The reader that puts terms into a text goes from piece to piece: a character, a backslash with
the character behind it, a quoted region, a question mark that stays, or the reference to a
bound variable. What it writes is the pieces one after the other, each reference with its term
in its place. The pieces depend on which names are bound but not on the terms, so nothing that
was put in is read again.
-/

namespace QuadClient.Substitution

/-! ### Pieces -/

/-- A stretch of a text that the reader takes in one step. -/
inductive Piece where
  /-- a character that is nothing but itself -/
  | char (c : Char)
  /-- a question mark that stays, and the name behind it -/
  | kept (name : String)
  /-- a backslash and the character behind it -/
  | pair (c : Char)
  /-- a backslash that ends the text -/
  | slash
  /-- a quoted region with both its marks -/
  | quotes (mark : Char) (body : List Char)
  /-- a quoted region that is not closed -/
  | unclosed (mark : Char) (body : List Char)
  /-- a question mark and the name of a bound variable -/
  | reference (name : String)
  deriving DecidableEq

/-- The two characters that open a quoted region. -/
def IsQuote (c : Char) : Prop :=
  c = '"' ∨ c = '\''

instance (c : Char) : Decidable (IsQuote c) :=
  inferInstanceAs (Decidable (_ ∨ _))

variable {lookup lookup' : String → Option Term}

namespace Piece

/-- The stretch itself. -/
def source : Piece → List Char
  | .char c => [c]
  | .kept _ => ['?']
  | .pair c => ['\\', c]
  | .slash => ['\\']
  | .quotes mark body => mark :: (body ++ [mark])
  | .unclosed mark body => mark :: body
  | .reference name => '?' :: name.toList

/-- What is written for the stretch. -/
def output (lookup : String → Option Term) : Piece → List Char
  | .reference name => ((lookup name).map fun t => t.inline.toList).getD ('?' :: name.toList)
  | piece => piece.source

/-- The name that is looked up for the stretch. -/
def asked : Piece → Option String
  | .kept name => if name = "" then none else some name
  | .reference name => some name
  | _ => none

/-- The stretch is a piece where `rest` is the text behind it and no quoted region is open. -/
def Fits (lookup : String → Option Term) : Piece → List Char → Prop
  | .char c, _ => c ≠ '\\' ∧ ¬ IsQuote c ∧ c ≠ '?'
  | .kept n, rest => n = name rest ∧ (n = "" ∨ lookup n = none)
  | .pair _, _ => True
  | .slash, rest => rest = []
  -- A backslash has no effect in here: the next such mark closes the region.
  | .quotes mark body, _ => IsQuote mark ∧ mark ∉ body
  | .unclosed mark body, rest => IsQuote mark ∧ mark ∉ body ∧ rest = []
  | .reference n, rest =>
    n ≠ "" ∧ (∃ t, lookup n = some t) ∧ (∀ c ∈ n.toList, isDelimiter c = false) ∧
      ∀ c ∈ rest.head?, isDelimiter c = true

end Piece

/-- A text is cut into pieces from its start to its end. -/
inductive Cut (lookup : String → Option Term) : List Char → List Piece → Prop where
  /-- the empty text -/
  | done : Cut lookup [] []
  /-- one more piece in front -/
  | piece {p : Piece} {rest : List Char} {pieces : List Piece} :
    p.Fits lookup rest → Cut lookup rest pieces → Cut lookup (p.source ++ rest) (p :: pieces)

/-! ### Names -/

@[simp] theorem toList_name (s : List Char) :
    (name s).toList = s.takeWhile fun c => !isDelimiter c := by
  simp [name]

theorem name_append_drop (s : List Char) :
    (name s).toList ++ s.dropWhile (fun c => !isDelimiter c) = s := by
  rw [toList_name]
  exact List.takeWhile_append_dropWhile

theorem undelimited_of_mem_name {s : List Char} {c : Char} (hc : c ∈ (name s).toList) :
    isDelimiter c = false := by
  rw [toList_name] at hc
  have := List.mem_takeWhile_imp hc
  simpa using this

/-- What stands behind a name begins with a delimiter, or is nothing. -/
theorem isDelimiter_of_drop {s : List Char} {c : Char}
    (hc : c ∈ (s.dropWhile fun c => !isDelimiter c).head?) : isDelimiter c = true := by
  have hstop := List.head?_dropWhile_not (fun c => !isDelimiter c) s
  rw [Option.mem_def.1 hc] at hstop
  simpa using hstop

/-- A name runs as far as the next delimiter. -/
theorem name_append {n rest : List Char} (hn : ∀ c ∈ n, isDelimiter c = false)
    (hrest : ∀ c ∈ rest.head?, isDelimiter c = true) : name (n ++ rest) = String.ofList n := by
  have hfree : ∀ c ∈ n, (!isDelimiter c) = true := by
    intro c hc
    simp [hn c hc]
  rw [name, List.takeWhile_append_of_pos hfree]
  cases rest with
  | nil => simp
  | cons d r =>
    have hd : isDelimiter d = true := hrest d rfl
    simp [hd]

/-- What stands behind a name is the text behind its delimited end. -/
theorem drop_append {n rest : List Char} (hn : ∀ c ∈ n, isDelimiter c = false)
    (hrest : ∀ c ∈ rest.head?, isDelimiter c = true) :
    (n ++ rest).dropWhile (fun c => !isDelimiter c) = rest := by
  have hfree : ∀ c ∈ n, (!isDelimiter c) = true := by
    intro c hc
    simp [hn c hc]
  rw [List.dropWhile_append_of_pos hfree]
  cases rest with
  | nil => rfl
  | cons d r =>
    have hd : isDelimiter d = true := hrest d rfl
    simp [hd]

/-- No term is put in where there is no name, or a name that is not bound. -/
theorem term?_eq_none {s : List Char} :
    term? lookup s = none ↔ name s = "" ∨ lookup (name s) = none := by
  by_cases hempty : name s = "" <;> simp [term?, hempty]

/-- A reference that fits is read as one. -/
theorem term?_of_fits {n : String} {rest : List Char} (h : (Piece.reference n).Fits lookup rest) :
    name (n.toList ++ rest) = n ∧ ∃ t, lookup n = some t ∧
      term? lookup (n.toList ++ rest) = some t := by
  obtain ⟨hne, ⟨t, ht⟩, hn, hrest⟩ := h
  have hname : name (n.toList ++ rest) = n := by simpa using name_append hn hrest
  exact ⟨hname, t, ht, by simp [term?, hname, hne, ht]⟩

/-! ### One way to cut -/

/-- The piece at the start of a text, and the text behind it. -/
def next (lookup : String → Option Term) : List Char → Option (Piece × List Char)
  | [] => none
  | c :: r =>
    if c = '\\' then
      match r with
      | [] => some (.slash, [])
      | d :: r => some (.pair d, r)
    else if IsQuote c then
      match r.dropWhile (· ≠ c) with
      | [] => some (.unclosed c r, [])
      | _ :: rest => some (.quotes c (r.takeWhile (· ≠ c)), rest)
    else if c = '?' then
      match term? lookup r with
      | some _ => some (.reference (name r), r.dropWhile fun c => !isDelimiter c)
      | none => some (.kept (name r), r)
    else some (.char c, r)

theorem isQuote_ne {c : Char} (h : IsQuote c) : c ≠ '\\' ∧ c ≠ '?' := by
  rcases h with rfl | rfl <;> decide

/-- Where a piece fits, it is the one the reader comes to. -/
theorem next_of_fits {p : Piece} {rest : List Char} (h : p.Fits lookup rest) :
    next lookup (p.source ++ rest) = some (p, rest) := by
  cases p with
  | char c =>
    obtain ⟨hslash, hquote, hmark⟩ := h
    simp [next, Piece.source, hslash, hquote, hmark]
  -- No bound name stands behind the mark, so it is not the mark of a reference.
  | kept n =>
    obtain ⟨rfl, hunbound⟩ := h
    have hnone := term?_eq_none.2 hunbound
    simp [next, Piece.source, IsQuote, hnone]
  | pair c => simp [next, Piece.source]
  | slash =>
    have hrest : rest = [] := h
    simp [next, Piece.source, hrest]
  -- The first mark behind the opening one closes the region.
  | quotes mark body =>
    obtain ⟨hquote, hbody⟩ := h
    have hother : ∀ c ∈ body, decide (c ≠ mark) = true := by
      intro c hc
      simpa using fun e : c = mark => hbody (e ▸ hc)
    have hsplit : body ++ [mark] ++ rest = body ++ mark :: rest := by simp
    have htake : (body ++ mark :: rest).takeWhile (· ≠ mark) = body := by
      rw [List.takeWhile_append_of_pos hother]
      simp
    have hdrop : (body ++ mark :: rest).dropWhile (· ≠ mark) = mark :: rest := by
      rw [List.dropWhile_append_of_pos hother]
      simp
    have hslash := (isQuote_ne hquote).1
    simp only [Piece.source, List.cons_append, hsplit, next, if_neg hslash, if_pos hquote, htake,
      hdrop]
  | unclosed mark body =>
    obtain ⟨hquote, hbody, rfl⟩ := h
    have hdrop : body.dropWhile (· ≠ mark) = [] := by
      rw [List.dropWhile_eq_nil_iff]
      intro c hc
      simpa using fun e : c = mark => hbody (e ▸ hc)
    have hslash := (isQuote_ne hquote).1
    simp only [Piece.source, List.append_nil, next, if_neg hslash, if_pos hquote, hdrop]
  -- The name runs to a delimiter, so exactly the reference is taken off the text.
  | reference n =>
    obtain ⟨hname, t, -, hbound⟩ := term?_of_fits h
    obtain ⟨-, -, hn, hrest⟩ := h
    simp [next, Piece.source, IsQuote, hbound, hname, drop_append hn hrest]

/-- A text that goes on starts with some piece. -/
theorem exists_fits (lookup : String → Option Term) (c : Char) (r : List Char) :
    ∃ (p : Piece) (rest : List Char), p.Fits lookup rest ∧ c :: r = p.source ++ rest ∧
      rest.length ≤ r.length := by
  by_cases hslash : c = '\\'
  · cases r with
    | nil => exact ⟨.slash, [], rfl, by simp [Piece.source, hslash], Nat.le_refl _⟩
    | cons d r => exact ⟨.pair d, r, trivial, by simp [Piece.source, hslash], by simp⟩
  -- A region is closed by the next mark of its kind, if there is one.
  by_cases hquote : IsQuote c
  · by_cases hclosed : c ∈ r
    · obtain ⟨body, rest, rfl, hbody⟩ := List.eq_append_cons_of_mem hclosed
      exact ⟨.quotes c body, rest, ⟨hquote, hbody⟩, by simp [Piece.source], by simp; omega⟩
    · exact ⟨.unclosed c r, [], ⟨hquote, hclosed, rfl⟩, by simp [Piece.source], by simp⟩
  by_cases hmark : c = '?'
  · cases hterm : term? lookup r with
    | none =>
      have hunbound := term?_eq_none.1 hterm
      exact ⟨.kept (name r), r, ⟨rfl, hunbound⟩, by simp [Piece.source, hmark], Nat.le_refl _⟩
    | some t =>
      have hbound : ¬ (name r = "" ∨ lookup (name r) = none) := by
        intro hunbound
        rw [term?_eq_none.2 hunbound] at hterm
        cases hterm
      obtain ⟨hne, hsome⟩ := not_or.1 hbound
      have hcut := name_append_drop r
      refine ⟨.reference (name r), r.dropWhile fun c => !isDelimiter c,
        ⟨hne, Option.ne_none_iff_exists'.1 hsome, fun _ => undelimited_of_mem_name,
          fun _ => isDelimiter_of_drop⟩, ?_, List.length_dropWhile_le _ r⟩
      simp only [Piece.source, List.cons_append, hcut, hmark]
  · exact ⟨.char c, r, ⟨hslash, hquote, hmark⟩, by simp [Piece.source], Nat.le_refl _⟩

/-- Every text can be cut, piece after piece from its start. -/
theorem exists_cut (lookup : String → Option Term) :
    ∀ text : List Char, ∃ pieces, Cut lookup text pieces
  | [] => ⟨[], .done⟩
  | c :: r => by
    obtain ⟨p, rest, hfits, htext, hshort⟩ := exists_fits lookup c r
    obtain ⟨pieces, hcut⟩ := exists_cut lookup rest
    rw [htext]
    exact ⟨p :: pieces, .piece hfits hcut⟩
termination_by text => text.length

/-- There is one way to cut a text: at each place the reader comes to one piece only. -/
theorem Cut.unique {text : List Char} {pieces others : List Piece} (h : Cut lookup text pieces)
    (h' : Cut lookup text others) : pieces = others := by
  induction h generalizing others with
  | done =>
    generalize htext : ([] : List Char) = text at h'
    cases h' with
    | done => rfl
    | piece hfits _ =>
      have hnext := next_of_fits hfits
      rw [← htext] at hnext
      cases hnext
  | @piece p rest pieces hfits _ ih =>
    generalize htext : p.source ++ rest = text at h'
    have hnext := next_of_fits hfits
    rw [htext] at hnext
    cases h' with
    | done => cases hnext
    | piece hfits' hcut' =>
      rw [next_of_fits hfits'] at hnext
      cases hnext
      rw [ih hcut']

/-! ### Reading the pieces -/

/-- Inside of a quoted region everything is copied up to the closing mark. -/
theorem fromMode_quoted {mark : Char} {body : List Char} (hbody : mark ∉ body)
    (rest : List Char) : fromMode lookup (.quoted mark) (body ++ mark :: rest) =
      body ++ mark :: fromMode lookup .plain rest := by
  induction body with
  | nil => simp [fromMode]
  | cons c body ih =>
    have hc : c ≠ mark := fun e => hbody (by simp [e])
    have hrest : mark ∉ body := fun e => hbody (by simp [e])
    simp [fromMode, hc, ih hrest]

/-- A region that is not closed is copied to the end of the text. -/
theorem fromMode_unclosed {mark : Char} {body : List Char} (hbody : mark ∉ body) :
    fromMode lookup (.quoted mark) body = body := by
  induction body with
  | nil => simp [fromMode]
  | cons c body ih =>
    have hc : c ≠ mark := fun e => hbody (by simp [e])
    have hrest : mark ∉ body := fun e => hbody (by simp [e])
    simp [fromMode, hc, ih hrest]

/-- A delimiter is none of the characters that the reader acts on. -/
theorem fromMode_delimiter {c : Char} (hc : isDelimiter c = true) (r : List Char) :
    fromMode lookup .plain (c :: r) = c :: fromMode lookup .plain r := by
  have hslash : c ≠ '\\' := by rintro rfl; cases hc
  have hdouble : c ≠ '"' := by rintro rfl; cases hc
  have hsingle : c ≠ '\'' := by rintro rfl; cases hc
  have hmark : c ≠ '?' := by rintro rfl; cases hc
  simp [fromMode, hslash, hdouble, hsingle, hmark]

/-- Once a term was put in, the name that it stands for is passed over. -/
theorem fromMode_replaced {n rest : List Char} (hn : ∀ c ∈ n, isDelimiter c = false)
    (hrest : ∀ c ∈ rest.head?, isDelimiter c = true) :
    fromMode lookup .replaced (n ++ rest) = fromMode lookup .plain rest := by
  induction n with
  | nil =>
    cases rest with
    | nil => simp [fromMode]
    | cons d r =>
      have hd : isDelimiter d = true := hrest d rfl
      rw [fromMode_delimiter hd]
      simp [fromMode, hd]
  | cons c n ih =>
    have hc : isDelimiter c = false := hn c (by simp)
    have hn' : ∀ d ∈ n, isDelimiter d = false := fun d hd => hn d (by simp [hd])
    simp [fromMode, hc, ih hn']

/-- One piece is read, and the reader stands outside quotes again. -/
theorem fromMode_piece {p : Piece} {rest : List Char} (h : p.Fits lookup rest) :
    fromMode lookup .plain (p.source ++ rest) =
      p.output lookup ++ fromMode lookup .plain rest := by
  cases p with
  | char c =>
    obtain ⟨hslash, hquote, hmark⟩ := h
    unfold IsQuote at hquote
    simp [fromMode, Piece.source, Piece.output, hslash, hquote, hmark]
  | kept n =>
    obtain ⟨rfl, hunbound⟩ := h
    have hnone := term?_eq_none.2 hunbound
    simp [fromMode, Piece.source, Piece.output, hnone]
  | pair c => simp [fromMode, Piece.source, Piece.output]
  | slash =>
    have hrest : rest = [] := h
    simp [fromMode, Piece.source, Piece.output, hrest]
  | quotes mark body =>
    obtain ⟨hquote, hbody⟩ := h
    have hslash := (isQuote_ne hquote).1
    unfold IsQuote at hquote
    simp [fromMode, Piece.source, Piece.output, hslash, hquote, fromMode_quoted hbody]
  | unclosed mark body =>
    obtain ⟨hquote, hbody, rfl⟩ := h
    have hslash := (isQuote_ne hquote).1
    unfold IsQuote at hquote
    simp [fromMode, Piece.source, Piece.output, hslash, hquote, fromMode_unclosed hbody]
  | reference n =>
    obtain ⟨-, t, ht, hbound⟩ := term?_of_fits h
    obtain ⟨-, -, hn, hrest⟩ := h
    simp [fromMode, Piece.source, Piece.output, hbound, ht, fromMode_replaced hn hrest]

/-- What is written for a text is what is written for its pieces, one after the other. -/
theorem fromMode_cut {text : List Char} {pieces : List Piece} (h : Cut lookup text pieces) :
    fromMode lookup .plain text = pieces.flatMap (Piece.output lookup) := by
  induction h with
  | done => simp [fromMode]
  | piece hfits _ ih => rw [fromMode_piece hfits, ih, List.flatMap_cons]

/-! ### Other lookups -/

/-- The pieces depend on which names are bound, not on their terms. -/
theorem Piece.Fits.of_bound {p : Piece} {rest : List Char} (h : p.Fits lookup rest)
    (hbound : ∀ n ∈ p.asked, (lookup' n).isSome = (lookup n).isSome) : p.Fits lookup' rest := by
  cases p with
  | kept n =>
    obtain ⟨hname, hunbound⟩ := h
    refine ⟨hname, ?_⟩
    by_cases hempty : n = ""
    · exact Or.inl hempty
    · -- A name that is not empty was asked for, so it is bound in neither of the two.
      have hnone := hunbound.resolve_left hempty
      have hsame := hbound n (by simp [Piece.asked, hempty])
      rw [hnone] at hsame
      exact Or.inr (by simpa using hsame)
  | reference n =>
    obtain ⟨hne, ⟨t, ht⟩, hn, hrest⟩ := h
    have hsame := hbound n (by simp [Piece.asked])
    rw [ht] at hsame
    exact ⟨hne, Option.isSome_iff_exists.1 hsame, hn, hrest⟩
  | char c => exact h
  | pair c => exact h
  | slash => exact h
  | quotes mark body => exact h
  | unclosed mark body => exact h

/-- A text is cut into the same pieces wherever the same names are bound. -/
theorem Cut.of_bound {text : List Char} {pieces : List Piece} (h : Cut lookup text pieces)
    (hbound : ∀ n ∈ pieces.filterMap Piece.asked, (lookup' n).isSome = (lookup n).isSome) :
    Cut lookup' text pieces := by
  induction h with
  | done => exact .done
  | @piece p rest pieces hfits _ ih =>
    refine .piece (hfits.of_bound fun n hn => hbound n ?_) (ih fun n hn => hbound n ?_)
    · exact List.mem_filterMap.2 ⟨p, by simp, hn⟩
    · obtain ⟨q, hq, hasked⟩ := List.mem_filterMap.1 hn
      exact List.mem_filterMap.2 ⟨q, by simp [hq], hasked⟩

/-- Every name that is looked up stands behind a question mark of the text. -/
theorem Cut.asked {text : List Char} {pieces : List Piece} (h : Cut lookup text pieces)
    {n : String} (hn : n ∈ pieces.filterMap Piece.asked) :
    n ≠ "" ∧ ∃ before after, text = before ++ '?' :: after ∧ n = name after := by
  induction h with
  | done => cases hn
  | @piece p rest pieces hfits _ ih =>
    obtain ⟨q, hq, hasked⟩ := List.mem_filterMap.1 hn
    rcases List.mem_cons.1 hq with rfl | hq
    · cases q with
      | kept m =>
        obtain ⟨hname, -⟩ := hfits
        by_cases hempty : m = ""
        · simp [Piece.asked, hempty] at hasked
        · have hm : m = n := by simpa [Piece.asked, hempty] using hasked
          subst hm
          exact ⟨hempty, [], rest, by simp [Piece.source], hname⟩
      | reference m =>
        -- The name is followed by a delimiter or by nothing, so it is the name behind the mark.
        obtain ⟨hne, -, hfree, hrest⟩ := hfits
        have hm : m = n := by simpa [Piece.asked] using hasked
        subst hm
        exact ⟨hne, [], m.toList ++ rest, by simp [Piece.source],
          by simpa using (name_append hfree hrest).symm⟩
      | char c => cases hasked
      | pair c => cases hasked
      | slash => cases hasked
      | quotes mark body => cases hasked
      | unclosed mark body => cases hasked
    · obtain ⟨hne, before, after, htext, hname⟩ := ih (List.mem_filterMap.2 ⟨q, hq, hasked⟩)
      exact ⟨hne, p.source ++ before, after, by simp [htext], hname⟩

theorem Cut.source {text : List Char} {pieces : List Piece} (h : Cut lookup text pieces) :
    pieces.flatMap Piece.source = text := by
  induction h with
  | done => rfl
  | piece _ _ ih => rw [List.flatMap_cons, ih]

/-- A piece stays as it is if no name of it is bound. -/
theorem output_of_unbound {p : Piece} (h : ∀ n ∈ p.asked, lookup n = none) :
    p.output lookup = p.source := by
  cases p with
  | reference n =>
    have hnone := h n rfl
    simp [Piece.output, Piece.source, hnone]
  | _ => rfl

/-- What is written for a piece depends on the terms of its own names alone. -/
theorem output_congr {p : Piece} (h : ∀ n ∈ p.asked, lookup' n = lookup n) :
    p.output lookup' = p.output lookup := by
  cases p with
  | reference n =>
    have hsame := h n rfl
    simp [Piece.output, hsame]
  | _ => rfl

/-- Where no name is bound the text stays as it is. -/
theorem substitute_of_unbound (hlookup : ∀ n, lookup n = none) (text : String) :
    substitute lookup text = text := by
  obtain ⟨pieces, hcut⟩ := exists_cut lookup text.toList
  have hkept : pieces.flatMap (Piece.output lookup) = pieces.flatMap Piece.source :=
    List.flatMap_congr fun p _ => output_of_unbound fun n _ => hlookup n
  rw [substitute, fromMode_cut hcut, hkept, hcut.source, String.ofList_toList]

/-- **How terms are put into a text.** For every text and every lookup there is exactly one way
to cut the text into pieces: characters, backslash pairs, quoted regions, question marks that
stay because no bound name stands behind them, and references, whose name is bound, is not
empty, has no delimiter in it and runs to a delimiter or to the end. The result is the pieces
with the inline text of its term in place of each reference. It stays so for every lookup that
binds the same names: what was put in is never read. So a lookup that binds no name of the text
changes nothing, and lookups that agree on the names of the text give the same result. -/
theorem substitute_pieces (lookup : String → Option Term) (text : String) :
    ∃ pieces : List Piece,
      Cut lookup text.toList pieces ∧
      (∀ others, Cut lookup text.toList others → others = pieces) ∧
      pieces.flatMap Piece.source = text.toList ∧
      (substitute lookup text).toList = pieces.flatMap (Piece.output lookup) ∧
      (∀ n ∈ pieces.filterMap Piece.asked,
        n ≠ "" ∧ ∃ before after, text.toList = before ++ '?' :: after ∧ n = name after) ∧
      (∀ lookup' : String → Option Term,
        (∀ n ∈ pieces.filterMap Piece.asked, (lookup' n).isSome = (lookup n).isSome) →
          (substitute lookup' text).toList = pieces.flatMap (Piece.output lookup')) ∧
      ((∀ n ∈ pieces.filterMap Piece.asked, lookup n = none) → substitute lookup text = text) ∧
      ∀ lookup' : String → Option Term,
        (∀ n ∈ pieces.filterMap Piece.asked, lookup' n = lookup n) →
          substitute lookup' text = substitute lookup text := by
  obtain ⟨pieces, hcut⟩ := exists_cut lookup text.toList
  have hasked : ∀ {p n}, p ∈ pieces → n ∈ p.asked → n ∈ pieces.filterMap Piece.asked :=
    fun hp hn => List.mem_filterMap.2 ⟨_, hp, hn⟩
  have hread : ∀ lookup', Cut lookup' text.toList pieces →
      (substitute lookup' text).toList = pieces.flatMap (Piece.output lookup') := by
    intro lookup' hcut'
    simp [substitute, fromMode_cut hcut']
  refine ⟨pieces, hcut, fun others h => h.unique hcut, hcut.source, hread lookup hcut,
    fun n => hcut.asked, fun lookup' h => hread lookup' (hcut.of_bound h), ?_, ?_⟩
  · intro hunbound
    have hkept : pieces.flatMap (Piece.output lookup) = pieces.flatMap Piece.source :=
      List.flatMap_congr fun p hp => output_of_unbound fun n hn => hunbound n (hasked hp hn)
    have hsame : (substitute lookup text).toList = text.toList := by
      rw [hread lookup hcut, hkept, hcut.source]
    exact String.toList_injective hsame
  · intro lookup' hagree
    have hbound : ∀ n ∈ pieces.filterMap Piece.asked, (lookup' n).isSome = (lookup n).isSome := by
      intro n hn
      rw [hagree n hn]
    have hkept : pieces.flatMap (Piece.output lookup') = pieces.flatMap (Piece.output lookup) :=
      List.flatMap_congr fun p hp => output_congr fun n hn => hagree n (hasked hp hn)
    have hsame : (substitute lookup' text).toList = (substitute lookup text).toList := by
      rw [hread lookup' (hcut.of_bound hbound), hread lookup hcut, hkept]
    exact String.toList_injective hsame

end QuadClient.Substitution
