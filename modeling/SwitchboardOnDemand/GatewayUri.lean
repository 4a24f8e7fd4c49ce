import Mathlib.Data.List.TakeWhile
import SwitchboardOnDemand.AccountLayouts
import SwitchboardOnDemand.Outcome
import SwitchboardOnDemand.Utf8

/-!
# The gateway of an oracle

An oracle stores the address of its gateway in 64 bytes. They are decoded as text,
cut at the first character zero and given unless nothing is left. That is the text
of the bytes in front of the first zero, whatever comes behind it
(`gateway_uri_eq`), and exactly what was stored if that was text with zeros behind
it (`gateway_uri_reads`).
-/

namespace SwitchboardOnDemand.GatewayUri
open Rust Utf8 SwitchboardOnDemand.AccountLayouts

variable {ε : Type}

/-! ### Texts and their bytes -/

/-- `str::len`, in bytes. -/
def len (chars : List Char) : Nat := (chars.map Char.utf8Size).sum

/-- `str::find` of a character: its place, in bytes. -/
def find (c : Char) : List Char → Option Nat
  | [] => none
  | other :: rest => if other = c then some 0 else (find c rest).map fun place => other.utf8Size + place

/-- `str::split_at` a place that is counted in bytes. -/
def split_at : List Char → Nat → Exec ε (List Char × List Char)
  | [], mid => if mid = 0 then .ok ([], []) else .panic "byte index is out of bounds"
  | c :: rest, mid =>
    if mid = 0 then .ok ([], c :: rest)
    else if c.utf8Size ≤ mid then do
      let (front, back) ← split_at rest (mid - c.utf8Size)
      pure (c :: front, back)
    else .panic "byte index is not a char boundary"

theorem split_at_append (front back : List Char) :
    (split_at (front ++ back) (len front) : Exec ε _) = .ok (front, back) := by
  induction front with
  | nil => cases back <;> rfl
  | cons c front ih =>
    have some := c.utf8Size_pos
    have total : len (c :: front) = c.utf8Size + len front := by simp [len]
    rw [List.cons_append, split_at, if_neg (by omega), if_pos (by omega), total, Nat.add_sub_cancel_left, ih]
    rfl

theorem find_append {c : Char} {front : List Char} (absent : c ∉ front) (back : List Char) :
    find c (front ++ c :: back) = some (len front) := by
  induction front with
  | nil => simp [find, len]
  | cons other front ih =>
    rw [List.mem_cons, not_or] at absent
    simp [find, Ne.symm absent.1, ih absent.2, len]

theorem find_of_notMem {c : Char} {chars : List Char} (absent : c ∉ chars) : find c chars = none := by
  induction chars with
  | nil => rfl
  | cons other chars ih =>
    rw [List.mem_cons, not_or] at absent
    simp [find, Ne.symm absent.1, ih absent.2]

/-! ### The gateway -/

/-- `'\0'`. -/
def nul : Char := Char.ofNat 0

def gateway_uri (self : OracleAccountData) : Exec ε (Option String) := do
  let uri := decode self.gateway_uri.val
  let (uri, _) ← split_at uri ((find nul uri).getD (len uri))
  pure (if uri = [] then none else some (String.ofList uri))

/-- The bytes in front of the first zero. -/
def written (field : Bytes) : Bytes := field.takeWhile fun byte => byte ≠ 0

theorem nul_mem_decode_iff (bytes : Bytes) : nul ∈ decode bytes ↔ 0 ∈ bytes := by
  have between : State.between.Seen [] := rfl
  constructor
  · exact zero_mem_decode between
  · intro zero
    obtain ⟨front, back, rfl⟩ := List.append_of_mem zero
    rw [decode, decode_ascii _ _ (by decide)]
    exact List.mem_append_right _ List.mem_cons_self

theorem decode_eq_nil_iff (bytes : Bytes) : decode bytes = [] ↔ bytes = [] := by
  constructor
  · intro none
    have back : utf8 (String.ofList (decode bytes)) = bytes := utf8_decode (by simp [none])
    rw [none] at back
    exact back.symm
  · rintro rfl
    rfl

theorem written_append {front : Bytes} (absent : 0 ∉ front) (back : Bytes) :
    written (front ++ 0 :: back) = front := by
  rw [written, List.takeWhile_append_of_pos]
  · simp
  · intro byte member
    simpa using ne_of_mem_of_not_mem member absent

theorem written_of_notMem {field : Bytes} (absent : 0 ∉ field) : written field = field := by
  rw [written, List.takeWhile_eq_self_iff]
  intro byte member
  simpa using ne_of_mem_of_not_mem member absent

/-- The search and the cut together are a cut of the bytes. -/
theorem cut_eq (field : Bytes) :
    ∃ back, (split_at (decode field) ((find nul (decode field)).getD (len (decode field))) : Exec ε _) =
      .ok (decode (written field), back) := by
  by_cases zero : 0 ∈ field
  · obtain ⟨front, back, rfl, absent⟩ := List.eq_append_cons_of_mem zero
    have absentChar : nul ∉ decode front := fun member => absent ((nul_mem_decode_iff front).mp member)
    have decoded : decode (front ++ 0 :: back) = decode front ++ nul :: decode back :=
      decode_ascii .between front (by decide) back
    rw [decoded, find_append absentChar, Option.getD_some, split_at_append, written_append absent]
    exact ⟨_, rfl⟩
  · have absentChar : nul ∉ decode field := fun member => zero ((nul_mem_decode_iff field).mp member)
    have whole := split_at_append (ε := ε) (decode field) []
    rw [List.append_nil] at whole
    rw [find_of_notMem absentChar, Option.getD_none, whole, written_of_notMem zero]
    exact ⟨_, rfl⟩

/-- What is given for the bytes in front of the first zero. -/
def shown (front : Bytes) : Option String := if front = [] then none else some (String.ofList (decode front))

/-- The gateway is the text of the bytes in front of the first zero. The call never
    panics. -/
theorem gateway_uri_eq (self : OracleAccountData) :
    (gateway_uri self : Exec ε _) = .ok (shown (written self.gateway_uri.val)) := by
  obtain ⟨back, cut⟩ := cut_eq (ε := ε) self.gateway_uri.val
  rw [gateway_uri, cut]
  simp [decode_eq_nil_iff, shown]

theorem shown_eq_some {front : Bytes} {text : String} (given : shown front = some text) :
    text.toList = decode front := by
  by_cases empty : front = []
  · rw [shown, if_pos empty] at given
    cases given
  · rw [shown, if_neg empty] at given
    obtain rfl := Option.some.inj given
    exact String.toList_ofList

theorem shown_utf8 (text : String) : (shown (utf8 text)).getD "" = text := by
  by_cases empty : utf8 text = []
  · have same : text = "" := utf8_injective (empty.trans rfl)
    rw [shown, if_pos empty, same]
    rfl
  · rw [shown, if_neg empty, decode_utf8, String.ofList_toList]
    rfl

theorem zero_mem_utf8_iff (text : String) : 0 ∈ utf8 text ↔ nul ∈ text.toList := by
  rw [← nul_mem_decode_iff, decode_utf8]

/-- What a field of 64 bytes is read as. -/
structure ReadsUri (field : Bytes) (uri : Option String) : Prop where
  none_iff : uri = none ↔ field.head? = some 0
  /-- Bytes of a text in front of the first zero are read as this text. -/
  exact : ∀ text, utf8 text = written field → uri.getD "" = text
  /-- A text without zeros, with zeros behind it, is read back. -/
  padded : ∀ text count, nul ∉ text.toList → field = utf8 text ++ List.replicate count 0 → uri.getD "" = text
  /-- Bytes that are no text leave their mark. -/
  replaced : ∀ text, uri = some text → utf8 text ≠ written field → replacement ∈ text.toList
  bounded : ∀ text, uri = some text → nul ∉ text.toList ∧ text.length ≤ 64

theorem written_padded {text : String} (absent : nul ∉ text.toList) (count : Nat) :
    written (utf8 text ++ List.replicate count 0) = utf8 text := by
  have absent : 0 ∉ utf8 text := fun zero => absent ((zero_mem_utf8_iff text).mp zero)
  cases count with
  | zero => rw [List.replicate_zero, List.append_nil, written_of_notMem absent]
  | succ count => rw [List.replicate_succ, written_append absent]

theorem zero_notMem_written (field : Bytes) : 0 ∉ written field := by
  intro zero
  simpa using List.mem_takeWhile_imp zero

theorem shown_eq_none_iff {field : Bytes} (full : field.length = 64) :
    shown (written field) = none ↔ field.head? = some 0 := by
  cases field with
  | nil => cases full
  | cons byte rest =>
    by_cases zero : byte = 0
    · simp [shown, written, zero]
    · simp [shown, written, zero]

/-- For any 64 bytes the call comes back, with no text exactly when the first byte is
    zero; what was stored as text with zeros behind it is read back. -/
theorem gateway_uri_reads (self : OracleAccountData) :
    ∃ uri, (gateway_uri self : Exec ε _) = .ok uri ∧ ReadsUri self.gateway_uri.val uri := by
  have full := self.gateway_uri.property
  refine ⟨_, gateway_uri_eq self, ?_⟩
  generalize self.gateway_uri.val = field at full
  refine ⟨shown_eq_none_iff full, ?_, ?_, ?_, ?_⟩
  · intro text spelled
    rw [← spelled, shown_utf8]
  · rintro text count absent rfl
    rw [written_padded absent, shown_utf8]
  · intro text given differ
    by_contra kept
    rw [shown_eq_some given] at kept
    have back := utf8_decode kept
    rw [← shown_eq_some given, String.ofList_toList] at back
    exact differ back
  · intro text given
    have chars := shown_eq_some given
    constructor
    · rw [chars, nul_mem_decode_iff]
      exact zero_notMem_written field
    · have short := length_decode_le .between (written field)
      have cut : (written field).length ≤ field.length := (List.takeWhile_prefix _).length_le
      rw [← String.length_toList, chars]
      exact (short.trans (by simpa [State.broken] using cut)).trans_eq full

end SwitchboardOnDemand.GatewayUri
