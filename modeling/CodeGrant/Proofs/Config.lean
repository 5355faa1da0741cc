import CodeGrant.Config
import CodeGrant.Proofs.Text.Blank
import Mathlib.Data.List.DropRight

/-! # The issuer of a configuration

An issuer should be a normal form (`Config.IsClean`): more than white space, without a slash at its
end, and left as it is when it is asked for again, so that no URL that the server tells is a bare
path.  A new configuration has such an issuer, unless it was asked for white space with slashes behind
it (`Config.issuer_clean_unless_hollow`).  Such a text is not blank, so it is taken, and then its
slashes are dropped; what is left is blank, and would be replaced if it were asked for. -/

namespace CodeGrant

open Net (SocketAddress)

/-! ## Dropping from the end -/

namespace Text

/-- What is left ends with a character that is kept. -/
theorem getLast?_dropEndWhile {p : Char → Bool} {chars : List Char} {c : Char}
    (h : (dropEndWhile p chars).getLast? = some c) : p c = false := by
  have hne : dropEndWhile p chars ≠ [] := by
    rintro hnil
    rw [hnil] at h
    cases h
  have hkept := List.rdropWhile_last_not p chars hne
  rw [List.getLast?_eq_some_getLast hne] at h
  rw [← Option.some.inj h]
  exact Bool.not_eq_true _ ▸ hkept

/-- Nothing more is dropped the second time. -/
theorem dropEndWhile_dropEndWhile (p : Char → Bool) (chars : List Char) :
    dropEndWhile p (dropEndWhile p chars) = dropEndWhile p chars :=
  List.rdropWhile_idempotent p chars

theorem isBlank_eq_true_iff {text : String} :
    isBlank text = true ↔ ∀ c ∈ text.toList, isBlankChar c = true :=
  List.all_eq_true

end Text

namespace Config

open Text (isBlank isBlankChar isBlank_eq_true_iff)

/-! ## Normal forms -/

/-- The URLs that a server tells and that of one of its clients, each with its path. -/
def advertised (config : Config) (clientId : String) : List (String × String) :=
  [(config.endpoint .authorization, "/oauth/authorize"), (config.endpoint .token, "/oauth/token"),
    (config.endpoint .keys, "/.well-known/jwks.json"), (config.endpoint .registration, "/register"),
    (config.clientUri clientId, "/register/" ++ clientId)]

/-- The issuer is a normal form, and every URL is the issuer with a path directly behind it. -/
structure IsClean (config : Config) : Prop where
  notBlank : isBlank config.issuer = false
  noSlash : config.issuer.toList.getLast? ≠ some '/'
  settled : new config.address (some config.issuer) = config
  advertised : ∀ clientId, ∀ entry ∈ config.advertised clientId,
    entry.1 = config.issuer ++ entry.2 ∧ entry.1 ≠ entry.2

/-- Whether nothing but white space stands in front of the slashes at the end of a text. -/
def IsHollow (text : String) : Prop :=
  ∃ blanks slashes, text.toList = blanks ++ slashes ∧ (∀ c ∈ blanks, isBlankChar c = true) ∧
    slashes ≠ [] ∧ ∀ c ∈ slashes, c = '/'

/-! ## URLs -/

theorem clientUri_eq (config : Config) (id : String) :
    config.clientUri id = config.issuer ++ "/register/" ++ id := by
  have hpath : Endpoint.registration.path ++ "/" = "/register/" := by decide
  rw [clientUri, endpoint, url, ← hpath, ← String.append_assoc]

theorem eq_append_of_mem_advertised {config : Config} {clientId : String} {entry : String × String}
    (h : entry ∈ config.advertised clientId) : entry.1 = config.issuer ++ entry.2 := by
  simp only [advertised, List.mem_cons, List.not_mem_nil, or_false] at h
  rcases h with rfl | rfl | rfl | rfl | rfl
  -- The paths of the endpoints stand behind the issuer as they are.
  iterate 4 rfl
  exact (clientUri_eq config clientId).trans String.append_assoc

/-! ## Slashes at the end -/

theorem toList_dropSlashes (text : String) :
    (dropSlashes text).toList = Text.dropEndWhile (· == '/') text.toList := String.toList_ofList

theorem getLast?_dropSlashes (text : String) : (dropSlashes text).toList.getLast? ≠ some '/' := by
  rw [toList_dropSlashes]
  intro h
  exact absurd (Text.getLast?_dropEndWhile h) (by decide)

theorem dropSlashes_dropSlashes (text : String) :
    dropSlashes (dropSlashes text) = dropSlashes text := by
  rw [dropSlashes, toList_dropSlashes, Text.dropEndWhile_dropEndWhile, dropSlashes]

/-- **Slashes are the only thing that can hide that a text is blank.** -/
theorem isBlank_dropSlashes_iff {text : String} :
    isBlank (dropSlashes text) = true ↔ isBlank text = true ∨ IsHollow text := by
  rw [isBlank_eq_true_iff, isBlank_eq_true_iff, toList_dropSlashes]
  obtain ⟨slashes, htext, hslashes⟩ := Text.exists_dropEndWhile_append (· == '/') text.toList
  constructor
  · intro hblank
    by_cases hnone : slashes = []
    · rw [hnone, List.append_nil] at htext
      exact .inl (htext ▸ hblank)
    · exact .inr ⟨_, slashes, htext, hblank, hnone, fun c hc => beq_iff_eq.mp (hslashes c hc)⟩
  · rintro (hblank | ⟨blanks, others, hhollow, hblanks, -, hothers⟩)
    · intro c hc
      exact hblank c (htext ▸ List.mem_append_left _ hc)
    · have hkept : ∀ c ∈ blanks, (c == '/') = false := by
        intro c hc
        refine beq_eq_false_iff_ne.mpr ?_
        rintro rfl
        exact absurd (hblanks '/' hc) (by decide)
      rw [hhollow, Text.dropEndWhile_append fun c hc => beq_iff_eq.mpr (hothers c hc),
        Text.dropEndWhile_of_forall hkept]
      exact hblanks

/-! ## The issuer that is chosen -/

/-- A text that is no mere white space and slashes is neither blank nor hollow. -/
theorem not_isHollow_of_mem {text : String} {c : Char} (hc : c ∈ text.toList)
    (hblank : isBlankChar c = false) (hslash : c ≠ '/') : ¬ IsHollow text := by
  rintro ⟨blanks, slashes, htext, hblanks, -, hslashes⟩
  rw [htext] at hc
  rcases List.mem_append.mp hc with hc | hc
  · exact absurd (hblanks c hc) (by simp [hblank])
  · exact hslash (hslashes c hc)

theorem h_mem_localIssuer (port : UInt16) : 'h' ∈ (localIssuer port).toList := by
  have htext : (localIssuer port).toList
      = "http://localhost:".toList ++ (Nat.repr port.toNat).toList := String.toList_append
  rw [htext]
  exact List.mem_append_left _ (by decide)

theorem isBlank_localIssuer (port : UInt16) : isBlank (localIssuer port) = false := by
  rw [Bool.eq_false_iff, ne_eq, isBlank_eq_true_iff]
  intro hblank
  exact absurd (hblank 'h' (h_mem_localIssuer port)) (by decide)

theorem isBlank_chooseIssuer (port : UInt16) (issuer : Option String) :
    isBlank (chooseIssuer port issuer) = false := by
  cases issuer with
  | none => exact isBlank_localIssuer port
  | some text =>
    rw [chooseIssuer]
    split
    · exact isBlank_localIssuer port
    · next hblank => exact Bool.eq_false_iff.mpr hblank

theorem not_isHollow_of_isBlank {text : String} (h : isBlank text = true) : ¬ IsHollow text := by
  rintro ⟨blanks, slashes, hsplit, -, hne, hslashes⟩
  obtain ⟨c, hc⟩ := List.exists_mem_of_ne_nil _ hne
  have hmem : '/' ∈ text.toList := by
    rw [hsplit, ← hslashes c hc]
    exact List.mem_append_right _ hc
  exact absurd (isBlank_eq_true_iff.mp h '/' hmem) (by decide)

/-- What is chosen is hollow only if that was asked for. -/
theorem isHollow_chooseIssuer_iff {port : UInt16} {issuer : Option String} :
    IsHollow (chooseIssuer port issuer) ↔ ∃ text, issuer = some text ∧ IsHollow text := by
  have hlocal : ¬ IsHollow (localIssuer port) :=
    not_isHollow_of_mem (h_mem_localIssuer port) (by decide) (by decide)
  cases issuer with
  | none => simpa [chooseIssuer] using hlocal
  | some text =>
    cases hblank : isBlank text with
    | false => simp [chooseIssuer, hblank]
    | true => simpa [chooseIssuer, hblank, not_isHollow_of_isBlank hblank] using hlocal

/-! ## The issuer that is told -/

variable {address : SocketAddress} {issuer : Option String}

theorem isBlank_issuer_iff : isBlank (new address issuer).issuer = true ↔
    ∃ text, issuer = some text ∧ IsHollow text := by
  rw [new, isBlank_dropSlashes_iff, isBlank_chooseIssuer, isHollow_chooseIssuer_iff]
  simp

/-- **An issuer is left as it is exactly if it is not blank.** -/
theorem new_issuer_eq_iff : new address (some (new address issuer).issuer) = new address issuer ↔
    isBlank (new address issuer).issuer = false := by
  constructor
  · intro hsame
    -- A blank issuer is replaced by one that is not blank.
    rw [Bool.eq_false_iff, ne_eq]
    intro hblank
    have hagain := hblank
    rw [← hsame] at hagain
    obtain ⟨text, htext, hhollow⟩ := isBlank_issuer_iff.mp hagain
    obtain rfl := Option.some.inj htext
    exact not_isHollow_of_isBlank hblank hhollow
  · intro hblank
    have htaken : chooseIssuer address.port (some (new address issuer).issuer)
        = (new address issuer).issuer := by
      rw [chooseIssuer, hblank, if_neg Bool.false_ne_true]
    rw [new, htaken, new, dropSlashes_dropSlashes]

/-- **An issuer that is not blank is a normal form.** -/
theorem isClean_of_not_isBlank (h : isBlank (new address issuer).issuer = false) :
    (new address issuer).IsClean where
  notBlank := h
  noSlash := getLast?_dropSlashes _
  settled := new_issuer_eq_iff.mpr h
  advertised clientId entry hentry := by
    have happend := eq_append_of_mem_advertised hentry
    refine ⟨happend, fun hbare => ?_⟩
    have hlength := congrArg String.length (happend.symm.trans hbare)
    rw [String.length_append] at hlength
    have hempty : (new address issuer).issuer = "" := String.length_eq_zero_iff.mp (by omega)
    rw [hempty, Text.isBlank_empty] at h
    cases h

/-- **The issuer of a configuration is a normal form, unless white space with slashes behind it was
asked for.**  It never ends with a slash; of such a text, and of no other, a blank issuer is left, and
that one is not kept when it is asked for again. -/
theorem issuer_clean_unless_hollow (address : SocketAddress) (issuer : Option String) :
    let config := new address issuer
    let hollow := ∃ text, issuer = some text ∧ IsHollow text
    config.issuer.toList.getLast? ≠ some '/' ∧ (isBlank config.issuer = true ↔ hollow) ∧
      (new address (some config.issuer) = config ↔ ¬ hollow) ∧ (config.IsClean ↔ ¬ hollow) := by
  intro config hollow
  have hblank : isBlank config.issuer = true ↔ hollow := isBlank_issuer_iff
  have hclean : isBlank config.issuer = false ↔ ¬ hollow := by
    rw [← hblank, Bool.not_eq_true]
  refine ⟨getLast?_dropSlashes _, hblank, new_issuer_eq_iff.trans hclean, ?_⟩
  constructor
  · intro h
    exact hclean.mp h.notBlank
  · intro h
    exact isClean_of_not_isBlank (hclean.mpr h)

/-- Of a slash nothing is left: the server has no name, its URLs are bare paths, and whoever asks for
that name gets the local one. -/
theorem issuer_not_clean_of_slash :
    let config := new (.v4 .loopback 9100) (some "/")
    config.issuer = "" ∧ config.endpoint .token = "/oauth/token" ∧
      (new config.address (some config.issuer)).issuer = "http://localhost:9100" ∧
      ¬ config.IsClean := by
  intro config
  have hissuer : config.issuer = "" := by decide +kernel
  refine ⟨hissuer, by decide +kernel, by decide +kernel, fun h => ?_⟩
  have hblank := h.notBlank
  rw [hissuer] at hblank
  exact absurd hblank (by decide)

end Config

end CodeGrant
