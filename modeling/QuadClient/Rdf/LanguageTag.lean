import QuadClient.Text.Search

/-!
# Language tags

A tag is a row of subtags between hyphens: a language, extended languages, a script, a region,
variants, extensions and a private-use part, in this order. Tags are kept in lower case.
-/

namespace QuadClient

namespace LanguageTag

/-- The first thing that is wrong with a text that should be a language tag. -/
inductive Fault where
  /-- nothing between two hyphens, or at an end -/
  | emptySubtag
  /-- a subtag of more than eight bytes -/
  | longSubtag
  /-- the first subtag is no language -/
  | badLanguage
  /-- a fourth extended language -/
  | manyExtended
  /-- nothing follows the letter of an extension -/
  | emptyExtension
  /-- nothing follows the `x` of a private-use part -/
  | emptyPrivate
  /-- a subtag that has no place where it stands -/
  | badSubtag
  deriving DecidableEq, Repr

/-- The wording of a fault. -/
def Fault.message : Fault → String
  | emptySubtag => "A subtag should not be empty"
  | longSubtag => "A subtag may be eight characters in length at maximum"
  | badLanguage => "The given language subtag is invalid"
  | manyExtended => "At maximum three extlangs are allowed"
  | emptyExtension => "If an extension subtag is present, it must not be empty"
  | emptyPrivate => "If the `x` subtag is present, it must not be empty"
  | badSubtag => "A subtag fails to parse, it does not match any other subtags"

/-- Tags that are accepted whole, for historical reasons. -/
def grandfathered : List String :=
  ["art-lojban", "cel-gaulish", "en-gb-oed", "i-ami", "i-bnn", "i-default", "i-enochian",
   "i-hak", "i-klingon", "i-lux", "i-mingo", "i-navajo", "i-pwn", "i-tao", "i-tay", "i-tsu",
   "no-bok", "no-nyn", "sgn-be-fr", "sgn-be-nl", "sgn-ch-de", "zh-guoyu", "zh-hakka",
   "zh-min", "zh-min-nan", "zh-xiang"]

/-- The length of a subtag in bytes. -/
def byteLength (s : List Char) : Nat :=
  s.foldl (fun n c => n + c.utf8Size) 0

/-- How far the reading of a tag has come. -/
inductive Place where
  /-- in front of the language -/
  | start
  /-- behind a language of two or three letters and `extended` extended languages -/
  | language (extended : Nat)
  /-- behind a longer language -/
  | longLanguage
  /-- behind the script -/
  | script
  /-- behind the region or a variant -/
  | region
  /-- in an extension; `started` once a subtag followed its letter -/
  | extension (started : Bool)
  /-- in the private-use part; `started` once a subtag followed its `x` -/
  | privateUse (started : Bool)
  deriving DecidableEq, Repr

/-- A script may still come. -/
def Place.takesScript : Place → Bool
  | .language _ | .longLanguage => true
  | _ => false

/-- A region may still come. -/
def Place.takesRegion : Place → Bool
  | .language _ | .longLanguage | .script => true
  | _ => false

/-- A subtag of five characters starting with a letter, or of four starting with a digit. -/
def isVariant (t : List Char) : Bool :=
  t.all Char.isAlphanum &&
    match t with
    | [] => false
    | c :: _ => (c.isAlpha && 5 ≤ t.length) || (c.isDigit && 4 ≤ t.length)

/-- Reads one subtag that is neither empty nor too long. -/
def step (place : Place) (t : List Char) : Except Fault Place :=
  match place with
  | .start =>
    if 2 ≤ t.length && t.all Char.isAlpha then
      .ok (if t.length < 4 then .language 0 else .longLanguage)
    else .error .badLanguage
  -- Nothing follows a private-use part but more of it.
  | .privateUse _ => if t.all Char.isAlphanum then .ok (.privateUse true) else .error .badSubtag
  | place =>
    -- One character alone begins an extension or the private-use part.
    if t.length = 1 && t.all Char.isAlphanum then
      if place = .extension false then .error .emptyExtension
      else if t = ['x'] then .ok (.privateUse false)
      else .ok (.extension false)
    else
      match place with
      | .extension _ => if t.all Char.isAlphanum then .ok (.extension true) else .error .badSubtag
      | place =>
        -- Three letters are an extended language where one may stand, and nothing else.
        if let .language extended := place then
          if t.length = 3 && t.all Char.isAlpha then
            if extended < 3 then .ok (.language (extended + 1)) else .error .manyExtended
          else other place t
        else other place t
where
  /-- a script, a region or a variant -/
  other (place : Place) (t : List Char) : Except Fault Place :=
    if place.takesScript && t.length = 4 && t.all Char.isAlpha then .ok .script
    else if place.takesRegion &&
        ((t.length = 2 && t.all Char.isAlpha) || (t.length = 3 && t.all Char.isDigit)) then
      .ok .region
    -- Behind a variant neither a script nor a region may come.
    else if isVariant t then .ok .region
    else .error .badSubtag

/-- Reads the subtags from left to right. -/
def walk (place : Place) : List (List Char) → Except Fault Place
  | [] => .ok place
  | t :: ts => do
    if t.isEmpty then .error .emptySubtag
    else if 8 < byteLength t then .error .longSubtag
    else walk (← step place t) ts

/-- Accepts the well-formed tags in lower case; otherwise names the first fault. -/
def check (s : List Char) : Except Fault Unit :=
  if String.ofList s ∈ grandfathered then .ok ()
  else
    match s with
    | 'x' :: '-' :: r =>
      -- A tag may be a private-use part and nothing else.
      if r.isEmpty then .error .emptyPrivate
      else (walk (.privateUse true) (Text.pieces '-' r)).map fun _ => ()
    | s => do
      match ← walk .start (Text.pieces '-' s) with
      | .extension false => .error .emptyExtension
      | .privateUse false => .error .emptyPrivate
      | _ => .ok ()

end LanguageTag

/-- A well-formed language tag in lower case. -/
structure LanguageTag where
  /-- the tag -/
  text : String
  /-- the tag is well formed -/
  valid : LanguageTag.check text.toList = .ok ()
  /-- the tag has no upper-case letter -/
  lower : text.toList.map Char.toLower = text.toList
  deriving DecidableEq

namespace LanguageTag

instance : Hashable LanguageTag := ⟨fun t => hash t.text⟩

/-- Two tags with the same text are the same tag. -/
@[ext] theorem ext {a b : LanguageTag} (h : a.text = b.text) : a = b := by
  cases a; cases b; cases h; rfl

theorem toLower_toLower (c : Char) : c.toLower.toLower = c.toLower := by
  by_cases h : c.isUpper = true
  · have hc : c.toNat < 128 := by
      have hupper : c.val ≥ 'A'.val ∧ c.val ≤ 'Z'.val := of_decide_eq_true h
      have h90 : c.toNat ≤ 90 := UInt32.le_iff_toNat_le.1 hupper.2
      omega
    -- Upper-case letters are ASCII, so a table of 128 cases decides it.
    have key : ∀ n : Fin 128, (Char.ofNat n).toLower.toLower = (Char.ofNat n).toLower := by
      decide +kernel
    have := key ⟨c.toNat, hc⟩
    simpa only [Char.ofNat_toNat] using this
  · have : c.toLower = c := dif_neg fun hupper => h (decide_eq_true hupper)
    rw [this, this]

/-- Puts a text into lower case and checks it. -/
def parse (text : String) : Except Fault LanguageTag :=
  let lower := text.toList.map Char.toLower
  match h : check lower with
  | .ok () =>
    .ok ⟨String.ofList lower, by simpa only [String.toList_ofList] using h, by
      simp only [String.toList_ofList, lower, List.map_map]
      exact List.map_congr_left fun c _ => toLower_toLower c⟩
  | .error fault => .error fault

@[simp] theorem parse_text (t : LanguageTag) : parse t.text = .ok t := by
  obtain ⟨text, valid, lower⟩ := t
  simp only [parse]
  split
  · simp [lower]
  · next h => rw [lower, valid] at h; cases h

end LanguageTag

end QuadClient
