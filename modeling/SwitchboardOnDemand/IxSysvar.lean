import SwitchboardOnDemand.Utils

/-!
# The instructions sysvar

`extract_ix_data` follows the offset table of the instructions sysvar to the
record of one instruction and gives its data. On a sysvar in the layout of the
runtime (`InstructionsSysvar`) it gives exactly the data of an Ed25519
instruction whose first offset record names that instruction itself
(`extract_ix_data_ok_iff`).
-/

namespace SwitchboardOnDemand.IxSysvar
open Rust SwitchboardOnDemand.Utils

variable {ε : Type}

/-- The address `Sysvar1nstructions1111111111111111111111111`. -/
def INSTRUCTIONS_SYSVAR_ID : Pubkey :=
  ⟨[6, 167, 213, 23, 24, 123, 209, 102, 53, 218, 212, 4, 85, 253, 194, 192,
    193, 36, 198, 143, 33, 86, 117, 165, 219, 186, 203, 95, 8, 0, 0, 0], by decide⟩

/-- The address `Ed25519SigVerify111111111111111111111111111`. -/
def ED25519_PROGRAM_ID : Pubkey :=
  ⟨[3, 125, 70, 214, 124, 147, 251, 190, 18, 249, 66, 143, 131, 141, 64, 255,
    5, 112, 116, 73, 39, 244, 138, 100, 252, 202, 112, 68, 128, 0, 0, 0], by decide⟩

/-- The second half of `extract_ix_data`, from the record of the instruction on. -/
def read_ix_data (p : Ptr) (idx : Nat) : Exec ε Slice := do
  let num_accounts ← p.read_u16
  -- Each account is one byte of flags and 32 bytes of key.
  let p := p.add (2 + num_accounts * 33)
  let instruction_data_len ← (p.add 32).read_u16
  let ix_data_ptr := p.add 34
  let instruction_data : Slice := ⟨ix_data_ptr, instruction_data_len⟩
  let program_id ← p.read 32
  Exec.assert (check_pubkey_eq program_id ED25519_PROGRAM_ID)
    "assertion failed: check_pubkey_eq(program_id, &ED25519_PROGRAM_ID)"
  Exec.assert (instruction_data_len ≥ 16) "assertion failed: instruction_data_len >= 16"
  let signature_instruction_index ← (ix_data_ptr.add 4).read_u16
  let public_key_instruction_index ← (ix_data_ptr.add 8).read_u16
  let message_instruction_index ← (ix_data_ptr.add 14).read_u16
  Exec.assert (signature_instruction_index = idx)
    s!"Signature instruction index {signature_instruction_index} does not match current instruction index {idx}"
  Exec.assert (public_key_instruction_index = idx)
    s!"Public key instruction index {public_key_instruction_index} does not match current instruction index {idx}"
  Exec.assert (message_instruction_index = idx)
    s!"Message instruction index {message_instruction_index} does not match current instruction index {idx}"
  pure instruction_data

/-- Extracts the data of the instruction with number `idx`. -/
def extract_ix_data (ix_sysvar : AccountInfo) (idx : Nat) : Exec ε Slice := do
  Exec.assert (check_pubkey_eq ix_sysvar.key INSTRUCTIONS_SYSVAR_ID)
    "assertion failed: check_pubkey_eq(ix_sysvar.key, &INSTRUCTIONS_SYSVAR_ID)"
  let base := addrOf ix_sysvar.data
  let num_instructions ← base.read_u16
  Exec.assert (idx < num_instructions) s!"Instruction index {idx} out of bounds (max: {num_instructions})"
  let start_offset ← (base.add (2 + idx * 2)).read_u16
  read_ix_data (base.add start_offset) idx

private theorem read_ix_data_len {p : Ptr} {idx : Nat} {source : Slice}
    (found : (read_ix_data p idx : Exec ε _) = .ok source) : source.len < 65536 := by
  rw [read_ix_data] at found
  obtain ⟨num_accounts, _, found⟩ := Exec.bind_eq_ok.mp found
  obtain ⟨instruction_data_len, length, found⟩ := Exec.bind_eq_ok.mp found
  simp only [Exec.bind_eq_ok, Exec.assert_eq_ok, exists_const, Exec.pure_eq, Exec.ok.injEq] at found
  obtain ⟨_, _, _, _, _, _, _, _, _, _, _, _, _, rfl⟩ := found
  exact Ptr.read_u16_lt length

/-- The data of an instruction is shorter than 64 KiB, as its length has 16 bits. -/
theorem extract_ix_data_len {ix_sysvar : AccountInfo} {idx : Nat} {source : Slice}
    (found : (extract_ix_data ix_sysvar idx : Exec ε _) = .ok source) : source.len < 65536 := by
  simp only [extract_ix_data, Exec.bind_eq_ok] at found
  obtain ⟨_, _, _, _, _, _, _, _, record⟩ := found
  exact read_ix_data_len record

/-! ### The layout of the runtime -/

/-- An instruction of a transaction; each account is a byte of flags and a key. -/
structure Instruction where
  accounts : List (FixedBytes 33)
  program_id : Pubkey
  data : Bytes

/-- The bytes of an instruction in front of its data. -/
def Instruction.head (ix : Instruction) : Bytes :=
  leBytes 2 ix.accounts.length ++ (ix.accounts.map Subtype.val).flatten ++ ix.program_id.val ++
    leBytes 2 ix.data.length

def Instruction.toBytes (ix : Instruction) : Bytes := ix.head ++ ix.data

/-- Where the record of the instruction with number `idx` starts. -/
def startOffset (instructions : List Instruction) (idx : Nat) : Nat :=
  2 + 2 * instructions.length + ((instructions.map Instruction.toBytes).take idx).flatten.length

/-- The instructions up to number `idx` have an even number of accounts and of bytes
    of data in front of its own data. -/
def EvenlyPlaced (instructions : List Instruction) (idx : Nat) : Prop :=
  (((instructions.take (idx + 1)).map fun ix => ix.accounts.length).sum +
    ((instructions.take idx).map fun ix => ix.data.length).sum) % 2 = 0

instance (instructions : List Instruction) (idx : Nat) : Decidable (EvenlyPlaced instructions idx) :=
  inferInstanceAs (Decidable (_ = _))

/-- The count, the offset table and the records. -/
def encode (instructions : List Instruction) : Bytes :=
  leBytes 2 instructions.length ++
    ((List.range instructions.length).map fun idx => leBytes 2 (startOffset instructions idx)).flatten ++
    (instructions.map Instruction.toBytes).flatten

/-- All counts, lengths and offsets fit into 16 bits. -/
structure Fits (instructions : List Instruction) : Prop where
  count : instructions.length < 65536
  offsets : ∀ idx < instructions.length, startOffset instructions idx < 65536
  accounts : ∀ ix ∈ instructions, ix.accounts.length < 65536
  data : ∀ ix ∈ instructions, ix.data.length < 65536

/-- The instructions sysvar of a transaction: its instructions in the layout of the
    runtime, with any bytes behind them. -/
structure InstructionsSysvar where
  instructions : List Instruction
  fits : Fits instructions
  trailing : Bytes

def InstructionsSysvar.account (sysvar : InstructionsSysvar) : AccountInfo :=
  ⟨INSTRUCTIONS_SYSVAR_ID, encode sysvar.instructions ++ sysvar.trailing⟩

/-- The first offset record of the data names instruction `idx` for its signature,
    key and message. -/
def FirstRecordNames (data : Bytes) (idx : Nat) : Prop :=
  leNat (window data 4 2) = idx ∧ leNat (window data 8 2) = idx ∧ leNat (window data 14 2) = idx

/-- The data of the instruction with number `idx`, where it lies in the sysvar. -/
def instructionSlice (sysvar : InstructionsSysvar) (idx : Nat) (inside : idx < sysvar.instructions.length) : Slice :=
  let ix := sysvar.instructions[idx]
  ⟨(addrOf sysvar.account.data).add (startOffset sysvar.instructions idx + ix.head.length), ix.data.length⟩

/-! ### Reading the layout -/

private theorem u16_leBytes {n : Nat} (fits : n < 65536) : leNat (leBytes 2 n) = n :=
  leNat_leBytes_of_lt (by simpa using fits)

private theorem each_account (ix : Instruction) : ∀ chunk ∈ ix.accounts.map Subtype.val, chunk.length = 33 := by
  intro chunk member
  obtain ⟨account, _, rfl⟩ := List.mem_map.mp member
  exact account.property

private theorem length_accounts (ix : Instruction) :
    (ix.accounts.map Subtype.val).flatten.length = ix.accounts.length * 33 := by
  rw [length_flatten (each_account ix), List.length_map, Nat.mul_comm]

theorem Instruction.length_head (ix : Instruction) : ix.head.length = 2 + ix.accounts.length * 33 + 34 := by
  simp only [head, List.length_append, length_leBytes, length_accounts, ix.program_id.property]

private theorem records_parity (instructions : List Instruction) :
    (instructions.map Instruction.toBytes).flatten.length % 2 =
      ((instructions.map fun ix => ix.accounts.length).sum + (instructions.map fun ix => ix.data.length).sum) % 2 := by
  induction instructions with
  | nil => rfl
  | cons ix rest ih =>
    simp only [List.map_cons, List.flatten_cons, List.sum_cons, List.length_append, Instruction.toBytes, ix.length_head]
    omega

variable (sysvar : InstructionsSysvar)

/-- The data of an instruction lies at an even address exactly when the accounts
    and data before it are even in number: all else has a fixed even size. -/
theorem aligned_instructionSlice {idx : Nat} (inside : idx < sysvar.instructions.length) :
    (instructionSlice sysvar idx inside).ptr.Aligned 2 ↔ EvenlyPlaced sysvar.instructions idx := by
  have before := records_parity (sysvar.instructions.take idx)
  have own := sysvar.instructions[idx].length_head
  simp only [Ptr.Aligned, instructionSlice, addrOf, Ptr.add, startOffset, EvenlyPlaced, ← List.map_take,
    List.take_succ_eq_append_getElem inside, List.map_append, List.sum_append, List.map_cons, List.map_nil,
    List.sum_cons, List.sum_nil]
  omega

private theorem each_offset (instructions : List Instruction) :
    ∀ chunk ∈ (List.range instructions.length).map fun idx => leBytes 2 (startOffset instructions idx),
      chunk.length = 2 := by
  intro chunk member
  obtain ⟨idx, _, rfl⟩ := List.mem_map.mp member
  exact length_leBytes 2 _

private theorem length_table (instructions : List Instruction) :
    ((List.range instructions.length).map fun idx => leBytes 2 (startOffset instructions idx)).flatten.length =
      2 * instructions.length := by
  rw [length_flatten (each_offset instructions), List.length_map, List.length_range]

theorem drop_startOffset {idx : Nat} (inside : idx < sysvar.instructions.length) :
    ∃ behind, sysvar.account.data.drop (startOffset sysvar.instructions idx) =
      sysvar.instructions[idx].head ++ sysvar.instructions[idx].data ++ behind := by
  have front : (leBytes 2 sysvar.instructions.length ++ ((List.range sysvar.instructions.length).map fun idx =>
      leBytes 2 (startOffset sysvar.instructions idx)).flatten).length = 2 + 2 * sysvar.instructions.length := by
    rw [List.length_append, length_leBytes, length_table]
  refine ⟨((sysvar.instructions.map Instruction.toBytes).drop (idx + 1)).flatten ++ sysvar.trailing, ?_⟩
  have records := drop_flatten_take (sysvar.instructions.map Instruction.toBytes) idx
  have here : (sysvar.instructions.map Instruction.toBytes).drop idx =
      sysvar.instructions[idx].toBytes :: (sysvar.instructions.map Instruction.toBytes).drop (idx + 1) := by
    rw [List.drop_eq_getElem_cons (by rwa [List.length_map]), List.getElem_map]
  rw [here, List.flatten_cons] at records
  have short : ((sysvar.instructions.map Instruction.toBytes).take idx).flatten.length ≤
      (sysvar.instructions.map Instruction.toBytes).flatten.length := by
    rw [← List.take_append_drop idx (sysvar.instructions.map Instruction.toBytes), List.flatten_append,
      List.length_append, List.take_append_drop]
    exact Nat.le_add_right _ _
  rw [InstructionsSysvar.account, encode, startOffset, List.append_assoc, ← front, ← List.drop_drop, List.drop_left,
    List.drop_append_of_le_length short, records, Instruction.toBytes, List.append_assoc]

theorem window_table {idx : Nat} (inside : idx < sysvar.instructions.length) :
    window sysvar.account.data (2 + idx * 2) 2 = leBytes 2 (startOffset sysvar.instructions idx) := by
  have table := length_table sysvar.instructions
  rw [InstructionsSysvar.account, encode, List.append_assoc, List.append_assoc,
    window_append_right (by rw [length_leBytes]; omega), length_leBytes, window_append_left (by omega),
    show 2 + idx * 2 - 2 = 2 * idx by omega, window_flatten (each_offset _) (by simpa using inside),
    List.getElem_map, List.getElem_range]

theorem window_count : window sysvar.account.data 0 2 = leBytes 2 sysvar.instructions.length := by
  rw [InstructionsSysvar.account, encode, List.append_assoc, List.append_assoc,
    window_append_left (by rw [length_leBytes]), window_full (length_leBytes 2 _)]

theorem length_data : 2 + 2 * sysvar.instructions.length ≤ sysvar.account.data.length := by
  simp only [InstructionsSysvar.account, encode, List.length_append, length_leBytes, length_table]
  omega

namespace Instruction

variable (ix : Instruction)

theorem window_accounts : window ix.head 0 2 = leBytes 2 ix.accounts.length := by
  rw [head, List.append_assoc, List.append_assoc, window_append_left (by rw [length_leBytes]),
    window_full (length_leBytes 2 _)]

theorem window_program_id : window ix.head (2 + ix.accounts.length * 33) 32 = ix.program_id.val :=
  window_middle (by rw [List.length_append, length_leBytes, length_accounts]) ix.program_id.property

theorem window_data_len : window ix.head (2 + ix.accounts.length * 33 + 32) 2 = leBytes 2 ix.data.length := by
  have front : (leBytes 2 ix.accounts.length ++ (ix.accounts.map Subtype.val).flatten ++ ix.program_id.val).length =
      2 + ix.accounts.length * 33 + 32 := by
    rw [List.length_append, List.length_append, length_leBytes, length_accounts, ix.program_id.property]
  rw [head, window_append_right front.le, front, Nat.sub_self, window_full (length_leBytes 2 _)]

end Instruction

/-- From a record on, `read_ix_data` gives the data of its instruction when that is
    an Ed25519 instruction whose first offset record names `idx`. -/
theorem read_ix_data_ok_iff {p : Ptr} {ix : Instruction} {behind : Bytes}
    (record : p.rest = ix.head ++ ix.data ++ behind) (accounts : ix.accounts.length < 65536)
    (data : ix.data.length < 65536) (idx : Nat) (source : Slice) :
    (read_ix_data p idx : Exec ε _) = .ok source ↔
      ix.program_id = ED25519_PROGRAM_ID ∧ 16 ≤ ix.data.length ∧ FirstRecordNames ix.data idx ∧
        source = ⟨p.add ix.head.length, ix.data.length⟩ := by
  have long := ix.length_head
  have room : ix.head.length + ix.data.length ≤ p.rest.length := by
    rw [record, List.length_append, List.length_append]
    omega
  have inHead : ∀ {start width}, start + width ≤ ix.head.length →
      window p.rest start width = window ix.head start width := by
    intro start width inside
    rw [record, window_append_left (by rw [List.length_append]; omega), window_append_left inside]
  have num_accounts : (p.read_u16 : Exec ε _) = .ok ix.accounts.length := by
    rw [← Ptr.add_zero p, Ptr.read_u16_add (by omega), inHead (by omega), ix.window_accounts, u16_leBytes accounts]
  have program_id : ((p.add (2 + ix.accounts.length * 33)).read 32 : Exec ε _) = .ok ix.program_id := by
    rw [Ptr.read_add (by omega)]
    exact congrArg Exec.ok (Subtype.ext (by rw [fixedAt_val, inHead (by omega), ix.window_program_id]))
  have data_len : ((p.add (2 + ix.accounts.length * 33 + 32)).read_u16 : Exec ε _) = .ok ix.data.length := by
    rw [Ptr.read_u16_add (by omega), inHead (by omega), ix.window_data_len, u16_leBytes data]
  simp only [read_ix_data, num_accounts, Exec.ok_bind, Ptr.add_add, data_len, program_id, ← long]
  rw [eq_comm (a := source)]
  by_cases large : 16 ≤ ix.data.length
  · have field : ∀ offset, offset + 2 ≤ 16 →
        ((p.add (ix.head.length + offset)).read_u16 : Exec ε _) = .ok (leNat (window ix.data offset 2)) := by
      intro offset inside
      rw [Ptr.read_u16_add (by omega), record, window_append_left (by rw [List.length_append]; omega),
        window_append_right (by omega), Nat.add_sub_cancel_left]
    simp only [field 4 (by decide), field 8 (by decide), field 14 (by decide), Exec.bind_eq_ok, Exec.assert_eq_ok,
      exists_const, check_pubkey_eq_iff, ge_iff_le, large, true_and, Exec.ok.injEq, exists_eq_left', Exec.pure_eq,
      FirstRecordNames, and_assoc]
  · simp only [Exec.bind_eq_ok, Exec.assert_eq_ok, exists_const, ge_iff_le, large, false_and, and_false]

theorem instructionSlice_bytes {idx : Nat} (inside : idx < sysvar.instructions.length) :
    (instructionSlice sysvar idx inside).InBounds ∧
      (instructionSlice sysvar idx inside).bytes = sysvar.instructions[idx].data := by
  obtain ⟨behind, record⟩ := drop_startOffset sysvar inside
  have rest : (instructionSlice sysvar idx inside).ptr.rest = sysvar.instructions[idx].data ++ behind := by
    rw [instructionSlice, ← Ptr.add_add, Ptr.rest_add, Ptr.rest_add, addrOf_rest, record, List.append_assoc,
      List.drop_left]
  rw [Slice.InBounds, Slice.bytes, rest]
  exact ⟨by rw [List.length_append]; exact Nat.le_add_right _ _, List.take_left⟩

/-- `extract_ix_data` gives the data of an instruction exactly when there is one
    with the number, it has the Ed25519 program and 16 bytes of data, and its
    first offset record names itself. -/
theorem extract_ix_data_ok_iff (idx : Nat) (source : Slice) :
    (extract_ix_data sysvar.account idx : Exec ε _) = .ok source ↔
      ∃ inside : idx < sysvar.instructions.length,
        sysvar.instructions[idx].program_id = ED25519_PROGRAM_ID ∧ 16 ≤ sysvar.instructions[idx].data.length ∧
          FirstRecordNames sysvar.instructions[idx].data idx ∧ source = instructionSlice sysvar idx inside := by
  have fits := sysvar.fits
  have size := length_data sysvar
  have key : check_pubkey_eq sysvar.account.key INSTRUCTIONS_SYSVAR_ID = true := (check_pubkey_eq_iff _ _).mpr rfl
  have count : ((addrOf sysvar.account.data).read_u16 : Exec ε _) = .ok sysvar.instructions.length := by
    rw [← Ptr.add_zero (addrOf sysvar.account.data), Ptr.read_u16_add (by rw [addrOf_rest]; omega), addrOf_rest,
      window_count, u16_leBytes fits.count]
  simp only [extract_ix_data, Exec.assert_true _ key, Exec.ok_bind, count]
  by_cases inside : idx < sysvar.instructions.length
  · have start : (((addrOf sysvar.account.data).add (2 + idx * 2)).read_u16 : Exec ε _) =
        .ok (startOffset sysvar.instructions idx) := by
      rw [Ptr.read_u16_add (by rw [addrOf_rest]; omega), addrOf_rest, window_table sysvar inside,
        u16_leBytes (fits.offsets idx inside)]
    have member : sysvar.instructions[idx] ∈ sysvar.instructions := List.getElem_mem inside
    obtain ⟨behind, record⟩ := drop_startOffset sysvar inside
    have rest : ((addrOf sysvar.account.data).add (startOffset sysvar.instructions idx)).rest =
        sysvar.instructions[idx].head ++ sysvar.instructions[idx].data ++ behind := by
      rw [Ptr.rest_add, addrOf_rest, record]
    rw [Exec.assert_true _ inside, Exec.ok_bind, start, Exec.ok_bind,
      read_ix_data_ok_iff rest (fits.accounts _ member) (fits.data _ member)]
    rw [Ptr.add_add]
    constructor
    · intro found
      exact ⟨inside, found⟩
    · rintro ⟨_, found⟩
      exact found
  · simp only [Exec.assert_false _ inside, Exec.panic_bind]
    constructor
    · intro done
      cases done
    · rintro ⟨isInside, _⟩
      exact absurd isInside inside

/-- `extract_ix_data` undoes the layout: it comes back exactly for an Ed25519
    instruction whose first offset record names itself, with the data of that
    instruction. -/
theorem extract_undoes_encode (idx : Nat) :
    ((∃ source, (extract_ix_data sysvar.account idx : Exec AnyError Slice) = .ok source) ↔
      ∃ inside : idx < sysvar.instructions.length,
        sysvar.instructions[idx].program_id = ED25519_PROGRAM_ID ∧ 16 ≤ sysvar.instructions[idx].data.length ∧
          FirstRecordNames sysvar.instructions[idx].data idx) ∧
    ∀ source, (extract_ix_data sysvar.account idx : Exec AnyError Slice) = .ok source →
      ∃ inside : idx < sysvar.instructions.length,
        source.InBounds ∧ source.bytes = sysvar.instructions[idx].data := by
  constructor
  · constructor
    · rintro ⟨source, found⟩
      obtain ⟨inside, program, large, names, _⟩ := (extract_ix_data_ok_iff sysvar idx source).mp found
      exact ⟨inside, program, large, names⟩
    · rintro ⟨inside, program, large, names⟩
      exact ⟨_, (extract_ix_data_ok_iff sysvar idx _).mpr ⟨inside, program, large, names, rfl⟩⟩
  · intro source found
    obtain ⟨inside, _, _, _, rfl⟩ := (extract_ix_data_ok_iff sysvar idx source).mp found
    exact ⟨inside, instructionSlice_bytes sysvar inside⟩

end SwitchboardOnDemand.IxSysvar
