import ControlInterface.Results.Wallet
import ControlInterface.Text.EscapeDebug

/-!
# Showing a phase token

A token of a sync phase that is not known is a text of the node.  It is shown escaped,
character by character, and for a log line it is cut to a number of bytes: the most
escapes that fit are kept, and a mark follows when anything was dropped.
-/

namespace ControlInterface

open Text

namespace UnknownPhaseToken

variable (tables : UnicodeTables)

/-- `Display::fmt` -/
def display (token : UnknownPhaseToken) : String :=
  token.text.toList.foldl
    (fun written character => written ++ String.ofList (escapeDebug tables character)) ""

/-- The loop over the characters: what is rendered, and whether anything was dropped. -/
def renderWithin (maxLen : Nat) : List Char → String → String × Bool
  | [], rendered => (rendered, false)
  | character :: rest, rendered =>
      let escaped := String.ofList (escapeDebug tables character)
      if rendered.utf8ByteSize + escaped.utf8ByteSize > maxLen then (rendered, true)
      else renderWithin maxLen rest (rendered ++ escaped)

def displayBounded (token : UnknownPhaseToken) (maxLen : Nat) : String :=
  let (rendered, dropped) := renderWithin tables maxLen token.text.toList ""
  if dropped then rendered.push '…' else rendered

example : displayBounded .ascii ⟨"a_very_long_token", by decide +kernel⟩ 10 = "a_very_lon…" := by
  decide +kernel

/-- The escaped content that is shown within the bound. -/
def content (token : UnknownPhaseToken) (maxLen : Nat) : String :=
  (renderWithin tables maxLen token.text.toList "").1

/-- Part of the token is left out. -/
def Truncated (token : UnknownPhaseToken) (maxLen : Nat) : Prop :=
  (renderWithin tables maxLen token.text.toList "").2 = true

instance (token : UnknownPhaseToken) (maxLen : Nat) : Decidable (token.Truncated tables maxLen) :=
  inferInstanceAs (Decidable (_ = _))

/-! ## The rendering as a code -/

/-- The bytes of the escapes of some characters. -/
def escapedSize (tables : UnicodeTables) (characters : List Char) : Nat :=
  PrefixCode.total Char.utf8Size ((escapeCode tables).encode characters)

theorem escapedSize_append (front back : List Char) :
    escapedSize tables (front ++ back) = escapedSize tables front + escapedSize tables back := by
  rw [escapedSize, PrefixCode.encode_append, PrefixCode.total_append]
  rfl

theorem encode_singleton (character : Char) :
    (escapeCode tables).encode [character] = escapeDebug tables character := by
  rw [PrefixCode.encode_cons, PrefixCode.encode_nil, List.append_nil]
  rfl

/-- The bytes of a text are those of its characters. -/
theorem utf8ByteSize_ofList (chars : List Char) :
    (String.ofList chars).utf8ByteSize = PrefixCode.total Char.utf8Size chars := by
  induction chars with
  | nil => rfl
  | cons char chars ih =>
      rw [← List.singleton_append, String.ofList_append, String.utf8ByteSize_append, ih,
        PrefixCode.total_append]
      congr 1
      simp [PrefixCode.total, String.utf8ByteSize_singleton]

theorem foldl_escapes (characters : List Char) (written : String) :
    characters.foldl
        (fun written character => written ++ String.ofList (escapeDebug tables character)) written =
      written ++ String.ofList ((escapeCode tables).encode characters) := by
  induction characters generalizing written with
  | nil => simp
  | cons character rest ih =>
      rw [List.foldl_cons, ih, PrefixCode.encode_cons, String.ofList_append, String.append_assoc]
      rfl

/-- A token is shown by the escapes of its characters, one after the other. -/
theorem display_eq (token : UnknownPhaseToken) :
    token.display tables = String.ofList ((escapeCode tables).encode token.text.toList) := by
  rw [display, foldl_escapes, String.empty_append]

/-- How the loop ends: at the last character, or at one whose escape goes beyond the bound. -/
inductive Stopped (maxLen : Nat) (characters : List Char) : List Char → Bool → Prop where
  | all : escapedSize tables characters ≤ maxLen → Stopped maxLen characters characters false
  | early {kept dropped : List Char} {next : Char} :
      characters = kept ++ next :: dropped → escapedSize tables kept ≤ maxLen →
      maxLen < escapedSize tables kept + escapedSize tables [next] →
      Stopped maxLen characters kept true

/-- The loop from any point: what is rendered so far fits, and it goes on until the next
escape would not. -/
theorem renderWithin_spec {maxLen : Nat} (kept rest : List Char)
    (within : escapedSize tables kept ≤ maxLen) :
    ∃ shown dropped,
      renderWithin tables maxLen rest (String.ofList ((escapeCode tables).encode kept)) =
        (String.ofList ((escapeCode tables).encode shown), dropped) ∧
      Stopped tables maxLen (kept ++ rest) shown dropped := by
  induction rest generalizing kept with
  | nil =>
      rw [List.append_nil]
      exact ⟨kept, false, rfl, .all within⟩
  | cons next rest ih =>
      rw [renderWithin]
      simp only [← encode_singleton, utf8ByteSize_ofList]
      split
      next beyond => exact ⟨kept, true, rfl, .early rfl within beyond⟩
      next fits =>
        rw [← String.ofList_append, ← PrefixCode.encode_append, List.append_cons kept next rest]
        apply ih
        rw [escapedSize_append]
        exact Nat.not_lt.mp fits

variable {tables} {token : UnknownPhaseToken} {maxLen : Nat}

/-- What is shown are the first escapes, all of them or up to one that does not fit. -/
theorem exists_stopped (tables : UnicodeTables) (token : UnknownPhaseToken) (maxLen : Nat) :
    ∃ shown dropped,
      renderWithin tables maxLen token.text.toList "" =
        (String.ofList ((escapeCode tables).encode shown), dropped) ∧
      Stopped tables maxLen token.text.toList shown dropped := by
  have run := renderWithin_spec tables [] token.text.toList (Nat.zero_le maxLen)
  rwa [PrefixCode.encode_nil, String.ofList_nil, List.nil_append] at run

theorem size_display (tables : UnicodeTables) (token : UnknownPhaseToken) :
    (token.display tables).utf8ByteSize = escapedSize tables token.text.toList := by
  rw [display_eq, utf8ByteSize_ofList]
  rfl

/-- The content is the longest start of the rendering in whole escapes that fits. -/
theorem content_isLongestWithin (tables : UnicodeTables) (token : UnknownPhaseToken)
    (maxLen : Nat) :
    (escapeCode tables).IsLongestWithin Char.utf8Size maxLen token.text.toList
      (token.content tables maxLen).toList := by
  rcases exists_stopped tables token maxLen with ⟨shown, dropped, run, stopped⟩
  rw [content, run, String.toList_ofList]
  cases stopped with
  | all within => exact PrefixCode.isLongestWithin_encode within
  | early split within beyond =>
      rw [escapedSize, escapedSize, encode_singleton] at beyond
      rw [split]
      exact PrefixCode.isLongestWithin_of_next within beyond

/-- Something is dropped exactly when the whole rendering does not fit. -/
theorem truncated_iff :
    token.Truncated tables maxLen ↔ maxLen < (token.display tables).utf8ByteSize := by
  rcases exists_stopped tables token maxLen with ⟨shown, dropped, run, stopped⟩
  rw [Truncated, run, size_display]
  cases stopped with
  | all within => simpa using within
  | early split within beyond =>
      rw [split, List.append_cons, escapedSize_append, escapedSize_append]
      simp only [true_iff]
      omega

theorem displayBounded_of_truncated (truncated : token.Truncated tables maxLen) :
    token.displayBounded tables maxLen = (token.content tables maxLen).push '…' := by
  rw [Truncated] at truncated
  simp only [displayBounded, content, truncated, if_true]

theorem displayBounded_of_not_truncated (whole : ¬ token.Truncated tables maxLen) :
    token.displayBounded tables maxLen = token.display tables := by
  have kept : token.content tables maxLen = token.display tables := by
    rw [truncated_iff, Nat.not_lt, size_display] at whole
    rw [display_eq, ← String.toList_inj, String.toList_ofList]
    exact (content_isLongestWithin tables token maxLen).eq_encode_iff.mpr whole
  rw [Truncated, Bool.not_eq_true] at whole
  rw [← kept]
  simp only [displayBounded, content, whole, Bool.false_eq_true, if_false]

theorem display_injective (tables : UnicodeTables) :
    Function.Injective (UnknownPhaseToken.display tables) := by
  intro token other same
  rw [display_eq, display_eq, String.ofList_inj] at same
  have sameText := String.toList_inj.mp (PrefixCode.encode_injective same)
  cases token
  cases other
  cases sameText
  rfl

/-! ## What is shown is visible -/

theorem not_hidden_of_mem_encode {characters : List Char} {shown : Char}
    (member : shown ∈ (escapeCode tables).encode characters) : isHidden shown = false := by
  rcases List.mem_flatMap.mp member with ⟨character, _, inside⟩
  exact not_hidden_of_mem_escapeDebug tables inside

theorem not_hidden_of_mem_display {shown : Char} (member : shown ∈ (token.display tables).toList) :
    isHidden shown = false := by
  rw [display_eq, String.toList_ofList] at member
  exact not_hidden_of_mem_encode member

theorem not_hidden_of_mem_displayBounded {shown : Char}
    (member : shown ∈ (token.displayBounded tables maxLen).toList) : isHidden shown = false := by
  by_cases truncated : token.Truncated tables maxLen
  · rw [displayBounded_of_truncated truncated, String.toList_push, List.mem_append,
      List.mem_singleton] at member
    rcases member with inside | rfl
    · rcases (content_isLongestWithin tables token maxLen).whole with ⟨front, _, written⟩
      rw [← written] at inside
      exact not_hidden_of_mem_encode inside
    · rfl
  · rw [displayBounded_of_not_truncated truncated] at member
    exact not_hidden_of_mem_display member

/-- A rendering within a bound is the whole one if that fits, and else the most whole
escapes that fit and a mark; a larger bound shows no less, nothing hidden is shown, and the
whole renderings of two tokens differ. -/
theorem displayBounded_longest_prefix (tables : UnicodeTables)
    (token : UnknownPhaseToken) (maxLen : Nat) :
    ((token.display tables).utf8ByteSize ≤ maxLen →
        token.displayBounded tables maxLen = token.display tables) ∧
      (maxLen < (token.display tables).utf8ByteSize →
        token.displayBounded tables maxLen = (token.content tables maxLen).push '…') ∧
      (escapeCode tables).IsLongestWithin Char.utf8Size maxLen token.text.toList
        (token.content tables maxLen).toList ∧
      (token.content tables maxLen).utf8ByteSize ≤ maxLen ∧
      (∀ larger, maxLen ≤ larger →
        (token.content tables maxLen).toList <+: (token.content tables larger).toList) ∧
      (∀ shown ∈ (token.displayBounded tables maxLen).toList, isHidden shown = false) ∧
      (∀ shown ∈ (token.display tables).toList, isHidden shown = false) ∧
      ∀ other : UnknownPhaseToken, token.display tables = other.display tables → token = other := by
  have longest := content_isLongestWithin tables token
  refine ⟨?_, ?_, longest maxLen, ?_, ?_, ?_, ?_, ?_⟩
  · intro fits
    apply displayBounded_of_not_truncated
    rwa [truncated_iff, Nat.not_lt]
  · intro beyond
    apply displayBounded_of_truncated
    rwa [truncated_iff]
  · rw [← String.ofList_toList (s := token.content tables maxLen), utf8ByteSize_ofList]
    exact (longest maxLen).within
  · intro larger le
    exact (longest maxLen).mono le (longest larger)
  · intro shown member
    exact not_hidden_of_mem_displayBounded member
  · intro shown member
    exact not_hidden_of_mem_display member
  · intro other same
    exact display_injective tables same

/-! ## Cut and whole renderings -/

/-- If the one token is shown whole and the other is cut, their renderings differ. -/
def ToldApart (tables : UnicodeTables) (maxLen : Nat) (whole cut : UnknownPhaseToken) : Prop :=
  ¬ whole.Truncated tables maxLen → cut.Truncated tables maxLen →
    whole.displayBounded tables maxLen ≠ cut.displayBounded tables maxLen

/-- The one token is what is kept of the other and the mark itself. -/
def Imitates (tables : UnicodeTables) (maxLen : Nat) (whole cut : UnknownPhaseToken) : Prop :=
  ∃ kept next dropped,
    whole.text.toList = kept ++ ['…'] ∧
    cut.text.toList = kept ++ next :: dropped ∧
    escapedSize tables kept + '…'.utf8Size ≤ maxLen ∧
    maxLen < escapedSize tables kept + escapedSize tables [next]

/-- The mark is written as it is. -/
theorem encode_push_ellipsis (characters : List Char) :
    (escapeCode tables).encode (characters ++ ['…']) =
      (escapeCode tables).encode characters ++ ['…'] := by
  rw [PrefixCode.encode_append, encode_singleton, escapeDebug_ellipsis]

theorem escapedSize_ellipsis : escapedSize tables ['…'] = '…'.utf8Size := by
  rw [escapedSize, encode_singleton, escapeDebug_ellipsis]
  rfl

/-- Where a cut rendering stops, by the sizes of the escapes. -/
theorem content_of_next {kept dropped : List Char} {next : Char}
    (split : token.text.toList = kept ++ next :: dropped)
    (within : escapedSize tables kept ≤ maxLen)
    (beyond : maxLen < escapedSize tables kept + escapedSize tables [next]) :
    token.content tables maxLen = String.ofList ((escapeCode tables).encode kept) := by
  rw [escapedSize, escapedSize, encode_singleton] at beyond
  apply String.toList_inj.mp
  apply (content_isLongestWithin tables token maxLen).unique
  rw [split, String.toList_ofList]
  exact PrefixCode.isLongestWithin_of_next within beyond

/-- A cut rendering is told apart from a whole one unless the whole token is what is kept
of the other and the mark. -/
theorem toldApart_iff (tables : UnicodeTables) (maxLen : Nat) (whole cut : UnknownPhaseToken) :
    ToldApart tables maxLen whole cut ↔ ¬ Imitates tables maxLen whole cut := by
  constructor
  · intro apart imitates
    rcases imitates with ⟨kept, next, dropped, wholeText, cutText, within, beyond⟩
    have isWhole : ¬ whole.Truncated tables maxLen := by
      rw [truncated_iff, size_display, wholeText, escapedSize_append, escapedSize_ellipsis]
      omega
    have isCut : cut.Truncated tables maxLen := by
      rw [truncated_iff, size_display, cutText, List.append_cons, escapedSize_append,
        escapedSize_append]
      omega
    apply apart isWhole isCut
    rw [displayBounded_of_not_truncated isWhole, displayBounded_of_truncated isCut,
      content_of_next cutText (by omega) beyond, display_eq, wholeText, encode_push_ellipsis,
      ← String.toList_inj, String.toList_push, String.toList_ofList, String.toList_ofList]
  · intro other isWhole isCut same
    apply other
    rw [displayBounded_of_not_truncated isWhole, displayBounded_of_truncated isCut,
      display_eq] at same
    rcases exists_stopped tables cut maxLen with ⟨kept, dropped, run, stopped⟩
    rw [content, run, ← String.toList_inj, String.toList_push, String.toList_ofList,
      String.toList_ofList, ← encode_push_ellipsis] at same
    have wholeText := PrefixCode.encode_injective same
    rw [Truncated, run] at isCut
    cases stopped with
    | all within => cases isCut
    | @early _ back next cutText _ beyond =>
        rw [truncated_iff, size_display, wholeText, escapedSize_append, escapedSize_ellipsis,
          Nat.not_lt] at isWhole
        exact ⟨kept, next, back, wholeText, cutText, isWhole, beyond⟩

/-- A token that ends in the mark. -/
def ellipsisToken : UnknownPhaseToken := ⟨"ab…", by decide +kernel⟩

/-- A token of the same start that goes on with a control sequence. -/
def controlToken : UnknownPhaseToken := ⟨"ab\x1b[2K", by decide +kernel⟩

/-- In five bytes the two are shown alike, the one whole and the other cut. -/
theorem ellipsisToken_shown_as_controlToken :
    ¬ ToldApart .ascii 5 ellipsisToken controlToken := by
  intro apart
  exact apart (by decide +kernel) (by decide +kernel) (by decide +kernel)

end UnknownPhaseToken

end ControlInterface
