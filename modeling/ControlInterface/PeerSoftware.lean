import ControlInterface.Text.Semver

/-!
# Peer software

The software a peer advertises, as `product/version`: what a node renders of its
own, at the level of detail its operator chose, and what it reads of another's.
Version zero in any decoration is the placeholder of peers that advertise nothing,
and is read as such.
-/

namespace ControlInterface

open Text Semver

/-! ## The source functions -/

/-- How much of its version a node advertises. -/
inductive SoftwareVersionDetail where
  | full
  | minor
  | off
  deriving DecidableEq

/-- What a peer advertised. -/
inductive PeerSoftware where
  | unknown
  | reported (product : String) (version : Version) (raw : String)
  deriving DecidableEq

def isVersionZero (version : Version) : Bool :=
  version.major == 0 && version.minor == 0 && version.patch == 0

/-- The advertisement of a version, empty when nothing is to be disclosed. -/
def SoftwareVersionDetail.render (detail : SoftwareVersionDetail) (product : String)
    (version : Version) : String :=
  match detail with
  | .full => product ++ "/" ++ version.display
  | .minor =>
      let coarsened := Version.new version.major version.minor 0
      if isVersionZero coarsened then "" else product ++ "/" ++ coarsened.display
  | .off => ""

def productVersionSeparator : Char := '/'

namespace PeerSoftware

/-- Read an advertisement. -/
def parse (advertised : String) : PeerSoftware :=
  let raw := trim advertised
  match rsplitOnce productVersionSeparator raw with
  | none => .unknown
  | some (product, version) =>
      if product = "" then .unknown
      else
        match Version.parse version with
        | none => .unknown
        | some version =>
            if isVersionZero version then .unknown else .reported product version raw

/-! ## The grammar of advertisements -/

/-- The text is a product and a version, joined by a separator that occurs no more
in what follows it, and the version is not the placeholder: one of its three numbers is not
zero. -/
def Advertises (text product : String) (version : Version) : Prop :=
  ∃ rendered, text = product ++ "/" ++ rendered ∧ '/' ∉ rendered.toList ∧ product ≠ "" ∧
    Version.parse rendered = some version ∧
    ¬(version.major = 0 ∧ version.minor = 0 ∧ version.patch = 0)

theorem isVersionZero_eq_false_iff {version : Version} :
    isVersionZero version = false ↔
      ¬(version.major = 0 ∧ version.minor = 0 ∧ version.patch = 0) := by
  rw [← Bool.not_eq_true, isVersionZero, Bool.and_eq_true, Bool.and_eq_true, beq_iff_eq,
    beq_iff_eq, beq_iff_eq, and_assoc]

/-- An advertisement is its two parts, rendered and joined again. -/
theorem advertises_iff {text product : String} {version : Version} :
    Advertises text product version ↔
      text = product ++ "/" ++ version.display ∧ product ≠ "" ∧ isVersionZero version = false := by
  constructor
  · intro found
    rcases found with ⟨_, split, _, named, read, nonzero⟩
    rw [Version.parse_eq_some_iff.mp read] at split
    exact ⟨split, named, isVersionZero_eq_false_iff.mpr nonzero⟩
  · intro joined
    rcases joined with ⟨split, named, nonzero⟩
    exact ⟨_, split, slash_not_mem_display version, named, Version.parse_display version,
      isVersionZero_eq_false_iff.mp nonzero⟩

theorem parse_eq_reported_iff {advertised product raw : String} {version : Version} :
    parse advertised = .reported product version raw ↔
      Advertises (trim advertised) product version ∧ raw = trim advertised := by
  simp only [parse, Advertises]
  constructor
  · intro read
    split at read
    next => cases read
    next before after split =>
      rcases rsplitOnce_eq_some_iff.mp split with ⟨joined, outside⟩
      split at read
      next => cases read
      next named =>
        split at read
        next => cases read
        next parsed isVersion =>
          split at read
          next => cases read
          next nonzero =>
            cases read
            have other := isVersionZero_eq_false_iff.mp (Bool.eq_false_iff.mpr nonzero)
            exact ⟨⟨after, joined, outside, named, isVersion, other⟩, rfl⟩
  · intro advertises
    rcases advertises with ⟨⟨rendered, joined, outside, named, isVersion, other⟩, rfl⟩
    have nonzero := isVersionZero_eq_false_iff.mpr other
    have split : rsplitOnce productVersionSeparator (trim advertised) = some (product, rendered) :=
      rsplitOnce_eq_some_iff.mpr ⟨joined, outside⟩
    simp only [split, if_neg named, isVersion, nonzero, Bool.false_eq_true, if_false]

theorem parse_eq_unknown_iff {advertised : String} :
    parse advertised = .unknown ↔
      ¬ ∃ product version, Advertises (trim advertised) product version := by
  constructor
  · rintro unknown ⟨product, version, advertises⟩
    have reported := parse_eq_reported_iff.mpr ⟨advertises, rfl⟩
    rw [unknown] at reported
    cases reported
  · intro other
    cases read : parse advertised with
    | unknown => rfl
    | reported product version raw =>
        exact absurd ⟨product, version, (parse_eq_reported_iff.mp read).1⟩ other

/-- Reading depends on nothing but what is left after trimming. -/
theorem parse_trim (advertised : String) : parse (trim advertised) = parse advertised := by
  simp only [parse, trim_trim]

theorem parse_reported_inj {left right : String} {product raw : String} {version : Version}
    (reported : parse left = .reported product version raw) :
    parse left = parse right ↔ trim left = trim right := by
  constructor
  · intro same
    rcases parse_eq_reported_iff.mp reported with ⟨-, rfl⟩
    exact (parse_eq_reported_iff.mp (same ▸ reported)).2
  · intro same
    rw [← parse_trim left, same, parse_trim]

/-- `parse` accepts exactly the advertisements, and loses nothing of what it reads:
the raw text is the trimmed input, is its two parts joined again, and reads as
itself, so two readings agree only on inputs that agree after trimming. -/
theorem parse_exact (advertised : String) :
    (∀ product version raw, parse advertised = .reported product version raw ↔
      Advertises (trim advertised) product version ∧ raw = trim advertised) ∧
    (parse advertised = .unknown ↔
      ¬ ∃ product version, Advertises (trim advertised) product version) ∧
    (∀ product version raw, parse advertised = .reported product version raw →
      raw = product ++ "/" ++ version.display ∧ parse raw = parse advertised ∧
      ∀ other, parse advertised = parse other ↔ trim advertised = trim other) := by
  refine ⟨fun _ _ _ => parse_eq_reported_iff, parse_eq_unknown_iff, ?_⟩
  intro product version raw reported
  rcases parse_eq_reported_iff.mp reported with ⟨advertises, rfl⟩
  exact ⟨(advertises_iff.mp advertises).1, parse_trim advertised,
    fun _ => parse_reported_inj reported⟩

end PeerSoftware

/-! ## What is rendered reads back -/

namespace SoftwareVersionDetail

/-- The version that an advertisement of this detail discloses, if it has one. -/
def disclosed (version : Version) : SoftwareVersionDetail → Option Version
  | .full => some version
  | .minor => some (.new version.major version.minor 0)
  | .off => none

/-- The advertisement is empty, or reads as the product and the disclosed version. -/
def ReadsBack (detail : SoftwareVersionDetail) (product : String) (version : Version) : Prop :=
  detail.render product version = "" ∨
    ∃ shown ∈ detail.disclosed version,
      PeerSoftware.parse (detail.render product version) =
        .reported product shown (detail.render product version)

theorem trimmed_advertisement {product : String} (named : product ≠ "") (trimmed : Trimmed product)
    (version : Version) : Trimmed (product ++ "/" ++ version.display) := by
  refine trimmed_append ?_ (exists_last_visible version)
  obtain ⟨first, rest, chars⟩ := List.exists_cons_of_ne_nil
    (fun empty => named (String.toList_inj.mp empty) : product.toList ≠ [])
  have visible : isWhitespace first = false := trimmed.1 first (by rw [chars]; rfl)
  exact ⟨first, by simp [chars], visible⟩

/-- An advertisement of a version that is not the placeholder reads as that version. -/
theorem parse_joined {product : String} (named : product ≠ "") (trimmed : Trimmed product)
    {version : Version} (nonzero : isVersionZero version = false) :
    PeerSoftware.parse (product ++ "/" ++ version.display) =
      .reported product version (product ++ "/" ++ version.display) := by
  have whole := trim_eq_self_iff.mpr (trimmed_advertisement named trimmed version)
  rw [PeerSoftware.parse_eq_reported_iff, whole, PeerSoftware.advertises_iff]
  exact ⟨⟨rfl, named, nonzero⟩, rfl⟩

/-- An advertisement of the placeholder reads as no version, whatever its decoration. -/
theorem parse_joined_zero {product : String} (named : product ≠ "") (trimmed : Trimmed product)
    {version shown : Version} {raw : String} (zero : isVersionZero version = true) :
    PeerSoftware.parse (product ++ "/" ++ version.display) ≠ .reported product shown raw := by
  have whole := trim_eq_self_iff.mpr (trimmed_advertisement named trimmed version)
  rw [Ne, PeerSoftware.parse_eq_reported_iff, whole, PeerSoftware.advertises_iff]
  intro reported
  rcases reported with ⟨⟨joined, _, nonzero⟩, _⟩
  have sameDisplay : version.display = shown.display := by
    simpa [← String.toList_inj] using joined
  have same : version = shown := Version.display_injective sameDisplay
  rw [same, nonzero] at zero
  cases zero

/-- The advertisement of a named product is empty or readable just when it is not the
full rendering of a version zero. -/
theorem readsBack_iff {product : String} (named : product ≠ "") (trimmed : Trimmed product)
    (detail : SoftwareVersionDetail) (version : Version) :
    detail.ReadsBack product version ↔ ¬ (detail = .full ∧ isVersionZero version = true) := by
  cases detail with
  | full =>
      have nonempty : SoftwareVersionDetail.full.render product version ≠ "" := by
        intro empty
        have chars := congrArg String.toList empty
        simp [render] at chars
      cases zero : isVersionZero version with
      | false =>
          simp only [Bool.false_eq_true, and_false, not_false_eq_true, iff_true]
          exact .inr ⟨version, rfl, parse_joined named trimmed zero⟩
      | true =>
          simp only [and_self, not_true_eq_false, iff_false]
          intro back
          rcases back with empty | ⟨shown, _, reported⟩
          · exact nonempty empty
          · exact parse_joined_zero named trimmed zero reported
  | minor =>
      simp only [reduceCtorEq, false_and, not_false_eq_true, iff_true]
      cases zero : isVersionZero (.new version.major version.minor 0) with
      | true => exact .inl (by simp [render, zero])
      | false =>
          have rendered : SoftwareVersionDetail.minor.render product version =
              product ++ "/" ++ (Version.new version.major version.minor 0).display := by
            simp [render, zero]
          refine .inr ⟨_, rfl, ?_⟩
          rw [rendered]
          exact parse_joined named trimmed zero
  | off =>
      simp only [reduceCtorEq, false_and, not_false_eq_true, iff_true]
      exact .inl rfl

theorem readsBack_minor_patch_release :
    SoftwareVersionDetail.minor.ReadsBack "dig-node" (.new 1 4 7) ↔
      ¬ (SoftwareVersionDetail.minor = .full ∧ isVersionZero (.new 1 4 7) = true) :=
  readsBack_iff (by decide) (by decide +kernel) .minor (.new 1 4 7)

/-- A build of version zero advertises itself in full as something no peer can read. -/
theorem full_zero_not_readsBack :
    "dig-node" ≠ "" ∧ Trimmed "dig-node" ∧
      ¬ SoftwareVersionDetail.full.ReadsBack "dig-node" (.new 0 0 0) ∧
      SoftwareVersionDetail.full.render "dig-node" (.new 0 0 0) ≠ "" ∧
      PeerSoftware.parse (SoftwareVersionDetail.full.render "dig-node" (.new 0 0 0)) =
        .unknown := by
  have unreadable : PeerSoftware.parse (SoftwareVersionDetail.full.render "dig-node"
      (.new 0 0 0)) = .unknown := by decide +kernel
  have nonempty : SoftwareVersionDetail.full.render "dig-node" (.new 0 0 0) ≠ "" := by
    decide +kernel
  refine ⟨by decide, by decide +kernel, ?_, nonempty, unreadable⟩
  intro back
  rcases back with empty | ⟨shown, _, reported⟩
  · exact nonempty empty
  · rw [unreadable] at reported
    cases reported

end SoftwareVersionDetail

end ControlInterface
