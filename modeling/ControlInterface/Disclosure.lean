import ControlInterface.PeerSoftware

/-!
# What advertisements disclose

A version as it gets around: a node advertises it at the detail that its operator chose, a
peer reads the advertisement, and may advertise what it has read to another peer in turn.
-/

namespace ControlInterface

open Text Semver

namespace SoftwareVersionDetail

/-! ## What can be told from an advertisement -/

/-- What `minor` leaves of a version. -/
def coarsened (version : Version) : Version := .new version.major version.minor 0

theorem coarsened_of_zero {version : Version} (zero : isVersionZero (coarsened version) = true) :
    coarsened version = .new 0 0 0 := by
  simp only [isVersionZero, coarsened, Version.new, Bool.and_eq_true, beq_iff_eq] at zero
  rw [coarsened, zero.1.1, zero.1.2]

theorem coarsened_zero {version : Version} (zero : isVersionZero version = true) :
    isVersionZero (coarsened version) = true := by
  simp only [isVersionZero, coarsened, Version.new, Bool.and_eq_true] at zero ⊢
  exact ⟨zero.1, rfl⟩

theorem joined_inj {product : String} {left right : Version} :
    product ++ "/" ++ left.display = product ++ "/" ++ right.display ↔ left = right := by
  rw [String.append_right_inj]
  exact ⟨Version.display_injective, congrArg Version.display⟩

theorem joined_ne_empty (product : String) (version : Version) :
    product ++ "/" ++ version.display ≠ "" := by
  intro empty
  have chars := congrArg String.toList empty
  simp at chars

theorem render_minor_of_zero (product : String) {version : Version}
    (zero : isVersionZero (coarsened version) = true) :
    SoftwareVersionDetail.minor.render product version = "" := if_pos zero

theorem render_minor_of_nonzero (product : String) {version : Version}
    (nonzero : isVersionZero (coarsened version) = false) :
    SoftwareVersionDetail.minor.render product version =
      product ++ "/" ++ (coarsened version).display := by
  apply if_neg
  rw [show isVersionZero (.new version.major version.minor 0) = false from nonzero]
  exact Bool.false_ne_true

/-- Advertisements tell apart the versions that differ in what is disclosed of them, and no
others. -/
theorem render_eq_iff (detail : SoftwareVersionDetail) (product : String)
    (left right : Version) :
    detail.render product left = detail.render product right ↔
      detail.disclosed left = detail.disclosed right := by
  cases detail with
  | full => exact joined_inj.trans (Option.some_inj (α := Version)).symm
  | off => exact iff_of_true rfl rfl
  | minor =>
      show _ ↔ some (coarsened left) = some (coarsened right)
      rw [Option.some_inj]
      cases leftZero : isVersionZero (coarsened left) with
      | true =>
          rw [render_minor_of_zero product leftZero, coarsened_of_zero leftZero]
          cases rightZero : isVersionZero (coarsened right) with
          | true =>
              rw [render_minor_of_zero product rightZero, coarsened_of_zero rightZero]
              exact iff_of_true rfl rfl
          | false =>
              rw [render_minor_of_nonzero product rightZero]
              refine iff_of_false (joined_ne_empty _ _).symm fun same => ?_
              rw [← same] at rightZero
              cases rightZero
      | false =>
          rw [render_minor_of_nonzero product leftZero]
          cases rightZero : isVersionZero (coarsened right) with
          | true =>
              rw [render_minor_of_zero product rightZero]
              refine iff_of_false (joined_ne_empty _ _) fun same => ?_
              rw [same, rightZero] at leftZero
              cases leftZero
          | false =>
              rw [render_minor_of_nonzero product rightZero]
              exact joined_inj

/-! ## Advertising what was read -/

/-- The advertisement of what is read of another one. -/
def readvertise (detail : SoftwareVersionDetail) (advertised : String) : String :=
  match PeerSoftware.parse advertised with
  | .unknown => ""
  | .reported product version _ => detail.render product version

/-- The one of two details that discloses less. -/
def coarser : SoftwareVersionDetail → SoftwareVersionDetail → SoftwareVersionDetail
  | .full, other => other
  | .minor, .off => .off
  | .minor, _ => .minor
  | .off, _ => .off

theorem readvertise_empty (detail : SoftwareVersionDetail) : detail.readvertise "" = "" := rfl

/-- An advertisement that peers pass on one after the other, each at its own detail. -/
def onward (first : SoftwareVersionDetail) (peers : List SoftwareVersionDetail) (product : String)
    (version : Version) : String :=
  peers.foldl (fun advertised detail => detail.readvertise advertised)
    (first.render product version)

section Readvertise

variable {product : String} (named : product ≠ "") (trimmed : Trimmed product)
include named trimmed

theorem readvertise_joined (detail : SoftwareVersionDetail) {version : Version}
    (nonzero : isVersionZero version = false) :
    detail.readvertise (product ++ "/" ++ version.display) = detail.render product version := by
  rw [readvertise, parse_joined named trimmed nonzero]

/-- A version zero gets no further than the first peer. -/
theorem readvertise_joined_zero (detail : SoftwareVersionDetail) {version : Version}
    (zero : isVersionZero version = true) :
    detail.readvertise (product ++ "/" ++ version.display) = "" := by
  have whole := trim_eq_self_iff.mpr (trimmed_advertisement named trimmed version)
  have split : rsplitOnce productVersionSeparator (product ++ "/" ++ version.display) =
      some (product, version.display) :=
    rsplitOnce_eq_some_iff.mpr ⟨rfl, slash_not_mem_display version⟩
  have unknown : PeerSoftware.parse (product ++ "/" ++ version.display) = .unknown := by
    simp only [PeerSoftware.parse, whole, split, if_neg named, Version.parse_display, zero, if_true]
  rw [readvertise, unknown]

theorem readvertise_minor (second : SoftwareVersionDetail) (version : Version) :
    second.readvertise (SoftwareVersionDetail.minor.render product version) =
      (SoftwareVersionDetail.minor.coarser second).render product version := by
  cases zero : isVersionZero (coarsened version) with
  | true =>
      rw [render_minor_of_zero product zero, readvertise_empty]
      cases second with
      | full | minor => exact (render_minor_of_zero product zero).symm
      | off => rfl
  | false =>
      rw [render_minor_of_nonzero product zero, readvertise_joined named trimmed second zero]
      cases second with
      | full => exact (render_minor_of_nonzero product zero).symm
      | minor =>
          have again : isVersionZero (coarsened (coarsened version)) = false := zero
          exact (render_minor_of_nonzero product again).trans
            (render_minor_of_nonzero product zero).symm
      | off => rfl

/-- What is advertised of an advertisement discloses what both details do. -/
theorem readvertise_render (first second : SoftwareVersionDetail) (version : Version) :
    second.readvertise (first.render product version) =
      if isVersionZero version then "" else (first.coarser second).render product version := by
  cases zero : isVersionZero version with
  | true =>
      rw [if_pos rfl]
      cases first with
      | full => exact readvertise_joined_zero named trimmed second zero
      | off => rfl
      | minor =>
          rw [render_minor_of_zero product (coarsened_zero zero)]
          exact readvertise_empty second
  | false =>
      rw [if_neg Bool.false_ne_true]
      cases first with
      | full => exact readvertise_joined named trimmed second zero
      | minor => exact readvertise_minor named trimmed second version
      | off => rfl

theorem onward_eq (first second : SoftwareVersionDetail) (rest : List SoftwareVersionDetail)
    (version : Version) :
    first.onward (second :: rest) product version =
      if isVersionZero version then ""
      else (rest.foldl coarser (first.coarser second)).render product version := by
  induction rest generalizing first second with
  | nil =>
      rw [onward, List.foldl_cons, List.foldl_nil, List.foldl_nil]
      exact readvertise_render named trimmed first second version
  | cons third rest ih =>
      have next : third.readvertise (second.readvertise (first.render product version)) =
          third.readvertise ((first.coarser second).render product version) := by
        rw [readvertise_render named trimmed first second]
        cases zero : isVersionZero version with
        | true =>
            rw [if_pos rfl, readvertise_render named trimmed, zero]
            exact readvertise_empty third
        | false => rw [if_neg Bool.false_ne_true]
      have merged := ih (first.coarser second) third
      rw [onward, List.foldl_cons] at merged
      rw [onward, List.foldl_cons, List.foldl_cons, next, merged, List.foldl_cons]

end Readvertise

/-- However many peers pass on what was advertised, what gets around of a version is what the
one of them discloses that discloses least: it is the advertisement of that one, and tells
apart the versions that differ in what that one discloses, and no others.  Of a version zero
nothing gets around. -/
theorem onward_discloses {product : String} (named : product ≠ "") (trimmed : Trimmed product)
    (first second : SoftwareVersionDetail) (rest : List SoftwareVersionDetail)
    (version : Version) :
    let least := rest.foldl coarser (first.coarser second)
    (isVersionZero version = true → first.onward (second :: rest) product version = "") ∧
      (isVersionZero version = false →
        first.onward (second :: rest) product version = least.render product version ∧
          ∀ other, isVersionZero other = false →
            (first.onward (second :: rest) product version =
                first.onward (second :: rest) product other ↔
              least.disclosed version = least.disclosed other)) := by
  intro least
  constructor
  · intro zero
    rw [onward_eq named trimmed, zero]
    rfl
  · intro nonzero
    have shown : first.onward (second :: rest) product version = least.render product version := by
      rw [onward_eq named trimmed, nonzero]
      rfl
    refine ⟨shown, fun other otherNonzero => ?_⟩
    rw [shown, onward_eq named trimmed, otherNonzero]
    exact least.render_eq_iff product version other

theorem onward_discloses_minor :
    let least := [SoftwareVersionDetail.full].foldl coarser (coarser .full .minor)
    (isVersionZero (.new 1 4 7) = true →
        onward .full [.minor, .full] "dig-node" (.new 1 4 7) = "") ∧
      (isVersionZero (.new 1 4 7) = false →
        onward .full [.minor, .full] "dig-node" (.new 1 4 7) =
            least.render "dig-node" (.new 1 4 7) ∧
          ∀ other, isVersionZero other = false →
            (onward .full [.minor, .full] "dig-node" (.new 1 4 7) =
                onward .full [.minor, .full] "dig-node" other ↔
              least.disclosed (.new 1 4 7) = least.disclosed other)) :=
  onward_discloses (by decide) (by decide +kernel) .full .minor [.full] (.new 1 4 7)

end SoftwareVersionDetail

end ControlInterface
