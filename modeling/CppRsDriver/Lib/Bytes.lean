import CppRsDriver.Lib.Checks
import Mathlib.Algebra.Group.Nat.Defs

/-! Byte strings read from the front. `Reads` says that a reader takes exactly the
given bytes, whatever follows them; readers are composed along it. -/
namespace CppRsDriver.Lib

def Reader (α : Type) : Type := List UInt8 → Option (α × List UInt8)

def Reads {α : Type} (read : Reader α) (bytes : List UInt8) (x : α) : Prop :=
  ∀ rest, read (bytes ++ rest) = some (x, rest)

namespace Reader
variable {α β : Type}

def pure (x : α) : Reader α := fun bytes => some (x, bytes)

def fail : Reader α := fun _ => none

def andThen (first : Reader α) (next : α → Reader β) : Reader β := fun bytes =>
  match first bytes with
  | some (x, rest) => next x rest
  | none => none

/-- What was read, as long as a further check of it succeeds. -/
def filterMap (read : Reader α) (f : α → Option β) : Reader β :=
  read.andThen (fun x bytes => (f x).map (fun y => (y, bytes)))

def byte : Reader UInt8
  | [] => none
  | b :: rest => some (b, rest)

def take (n : Nat) : Reader (List UInt8) := fun bytes =>
  if n ≤ bytes.length then some (bytes.take n, bytes.drop n) else none

/-- One after the other. -/
def sequence : List (Reader α) → Reader (List α)
  | [] => pure []
  | read :: readers => read.andThen (fun x => (sequence readers).filterMap (fun xs => some (x :: xs)))

/-- The whole of the bytes and nothing after them. -/
def complete (read : Reader α) (bytes : List UInt8) : Option α :=
  match read bytes with
  | some (x, []) => some x
  | _ => none

theorem andThen_eq_some {first : Reader α} {next : α → Reader β} {bytes rest : List UInt8} {y : β} :
    first.andThen next bytes = some (y, rest) ↔
      ∃ x more, first bytes = some (x, more) ∧ next x more = some (y, rest) := by
  unfold andThen
  cases first bytes with
  | none => simp
  | some pair =>
    obtain ⟨x, more⟩ := pair
    simp

theorem filterMap_eq_some {read : Reader α} {f : α → Option β} {bytes rest : List UInt8} {y : β} :
    read.filterMap f bytes = some (y, rest) ↔ ∃ x, read bytes = some (x, rest) ∧ f x = some y := by
  refine andThen_eq_some.trans ⟨?_, ?_⟩
  · rintro ⟨x, more, first, mapped⟩
    obtain ⟨z, is, same⟩ := Option.map_eq_some_iff.mp mapped
    cases same
    exact ⟨x, first, is⟩
  · rintro ⟨x, first, is⟩
    exact ⟨x, rest, first, Option.map_eq_some_iff.mpr ⟨y, is, rfl⟩⟩

theorem byte_eq_some {bytes rest : List UInt8} {b : UInt8} :
    byte bytes = some (b, rest) ↔ bytes = b :: rest := by
  cases bytes <;> simp [byte]

theorem take_eq_some {n : Nat} {bytes taken rest : List UInt8} :
    take n bytes = some (taken, rest) ↔ bytes = taken ++ rest ∧ taken.length = n := by
  unfold take
  constructor
  · intro read
    split at read
    · rename_i enough
      cases read
      exact ⟨(List.take_append_drop n bytes).symm, List.length_take_of_le enough⟩
    · cases read
  · rintro ⟨rfl, rfl⟩
    rw [if_pos (by simp), List.take_left, List.drop_left]

end Reader

namespace Reads
variable {α β : Type} {read : Reader α}

theorem pure (x : α) : Reads (Reader.pure x) [] x := fun _ => rfl

theorem andThen {next : α → Reader β} {bytes more : List UInt8} {x : α} {y : β}
    (first : Reads read bytes x) (then' : Reads (next x) more y) :
    Reads (read.andThen next) (bytes ++ more) y := by
  intro rest
  rw [List.append_assoc]
  simp only [Reader.andThen, first (more ++ rest)]
  exact then' rest

theorem filterMap {f : α → Option β} {bytes : List UInt8} {x : α} {y : β}
    (reads : Reads read bytes x) (maps : f x = some y) : Reads (read.filterMap f) bytes y := by
  intro rest
  simp only [Reader.filterMap, Reader.andThen, reads rest, maps, Option.map_some]

theorem byte (b : UInt8) : Reads Reader.byte [b] b := fun _ => rfl

theorem take (bytes : List UInt8) : Reads (Reader.take bytes.length) bytes bytes := by
  intro rest
  have enough : bytes.length ≤ (bytes ++ rest).length := by simp
  simp only [Reader.take, if_pos enough, List.take_left, List.drop_left]

/-- Chunks written for items, each of them read back by the item's own reader. -/
theorem sequence {ι : Type} (value : ι → α) {items : List ι} {chunks : List (List UInt8)}
    {readers : List (Reader α)} {written : ι → List UInt8 → Prop} {belongs : ι → Reader α → Prop}
    (writes : List.Forall₂ written items chunks) (fits : List.Forall₂ belongs items readers)
    (each : ∀ item chunk read, written item chunk → belongs item read →
      Reads read chunk (value item)) :
    Reads (Reader.sequence readers) chunks.flatten (items.map value) := by
  induction writes generalizing readers with
  | nil =>
    cases fits
    exact pure []
  | @cons item chunk items chunks head tail ih =>
    cases fits with
    | @cons _ read _ readers belongs fits =>
      exact (each item chunk read head belongs).andThen ((ih fits).filterMap rfl)

theorem complete {bytes : List UInt8} {x : α} (reads : Reads read bytes x) :
    read.complete bytes = some x := by
  have whole := reads []
  rw [List.append_nil] at whole
  simp only [Reader.complete, whole]

end Reads

section Write
variable {ι ε : Type}

/-- The chunks of all items one after the other, up to the first that fails. -/
def writeEach (write : Nat → ι → Except ε (List UInt8)) : Nat → List ι → Except ε (List UInt8)
  | _, [] => .ok []
  | index, item :: items =>
    (write index item).bind (fun chunk => (writeEach write (index + 1) items).map (chunk ++ ·))

theorem writeEach_chunks {write : Nat → ι → Except ε (List UInt8)} {items : List ι} {index : Nat}
    {bytes : List UInt8} (written : writeEach write index items = .ok bytes) :
    ∃ chunks, bytes = chunks.flatten ∧
      List.Forall₂ (fun item chunk => ∃ i, write i item = .ok chunk) items chunks := by
  induction items generalizing index bytes with
  | nil =>
    cases written
    exact ⟨[], rfl, .nil⟩
  | cons item items ih =>
    obtain ⟨chunk, head, written⟩ := bind_eq_ok.mp written
    cases tail : writeEach write (index + 1) items with
    | error e => rw [tail] at written; contradiction
    | ok rest =>
      rw [tail] at written
      cases Except.ok.inj written
      obtain ⟨chunks, rfl, each⟩ := ih tail
      exact ⟨chunk :: chunks, rfl, .cons ⟨index, head⟩ each⟩

theorem writeEach_ok {write : Nat → ι → Except ε (List UInt8)} {items : List ι} {index : Nat}
    {bytes : List UInt8} (written : writeEach write index items = .ok bytes) :
    ∃ chunks, bytes = chunks.flatten ∧ List.Forall₂ (fun item chunk =>
      item ∈ items ∧ chunk ∈ chunks ∧ ∃ i, write i item = .ok chunk) items chunks := by
  obtain ⟨chunks, eq, each⟩ := writeEach_chunks written
  refine ⟨chunks, eq, List.forall₂_iff_zip.mpr ⟨each.length_eq, fun member => ?_⟩⟩
  obtain ⟨inItems, inChunks⟩ := List.of_mem_zip member
  exact ⟨inItems, inChunks, List.forall₂_zip each member⟩

theorem writeEach_pieces {γ : Type} {write : Nat → ι → Except ε (List UInt8)} {items : List ι}
    {index : Nat} {bytes : List UInt8} {holds : ι → γ → Prop} {frame : γ → List UInt8}
    (each : ∀ i, ∀ item ∈ items, ∀ chunk, write i item = .ok chunk →
      ∃ piece, holds item piece ∧ chunk = frame piece)
    (written : writeEach write index items = .ok bytes) :
    ∃ pieces, bytes = (pieces.map frame).flatten ∧ List.Forall₂ holds items pieces := by
  obtain ⟨chunks, rfl, wrote⟩ := writeEach_ok written
  have framed : List.Forall₂ (fun item chunk => ∃ piece, holds item piece ∧ chunk = frame piece)
      items chunks := by
    refine wrote.imp ?_
    rintro item chunk ⟨member, -, i, is⟩
    exact each i item member chunk is
  clear wrote written each
  induction framed with
  | nil => exact ⟨[], rfl, .nil⟩
  | cons head tail ih =>
    obtain ⟨piece, holds, rfl⟩ := head
    obtain ⟨pieces, same, all⟩ := ih
    exact ⟨piece :: pieces, by rw [List.flatten_cons, same]; rfl, .cons holds all⟩

theorem writeEach_error {write : Nat → ι → Except ε (List UInt8)} {items : List ι} {index : Nat}
    {e : ε} (failed : writeEach write index items = .error e) :
    ∃ i, ∃ item ∈ items, write i item = .error e := by
  induction items generalizing index with
  | nil => contradiction
  | cons item items ih =>
    rcases bind_eq_error.mp failed with head | ⟨chunk, head, failed⟩
    · exact ⟨index, item, by simp, head⟩
    · cases tail : writeEach write (index + 1) items with
      | ok rest => rw [tail] at failed; contradiction
      | error e' =>
        rw [tail] at failed
        cases Except.error.inj failed
        obtain ⟨i, item', member, fails⟩ := ih tail
        exact ⟨i, item', List.mem_cons_of_mem _ member, fails⟩

theorem writeEach_map {κ : Type} (g : κ → ι) (write : Nat → ι → Except ε (List UInt8)) (index : Nat)
    (items : List κ) :
    writeEach write index (items.map g) = writeEach (fun i item => write i (g item)) index items := by
  induction items generalizing index with
  | nil => rfl
  | cons item items ih => simp only [List.map_cons, writeEach, ih]

end Write

theorem forall_byte {p : UInt8 → Prop} (all : ∀ n < 256, p (UInt8.ofNat n)) (b : UInt8) : p b := by
  have is := all b.toNat b.toNat_lt
  rwa [UInt8.ofNat_toNat] at is

/-- The `n` least significant bytes of `v`, most significant first. -/
def beBytes : Nat → Nat → List UInt8
  | 0, _ => []
  | n + 1, v => UInt8.ofNat (v / 256 ^ n) :: beBytes n v

def ofBeBytes (bytes : List UInt8) : Nat := bytes.foldl (fun acc b => acc * 256 + b.toNat) 0

@[simp] theorem length_beBytes (n v : Nat) : (beBytes n v).length = n := by
  induction n with
  | zero => rfl
  | succ n ih => simp only [beBytes, List.length_cons, ih]

theorem foldl_beBytes (n v acc : Nat) :
    (beBytes n v).foldl (fun acc b => acc * 256 + b.toNat) acc = acc * 256 ^ n + v % 256 ^ n := by
  induction n generalizing acc with
  | zero => simp [beBytes, Nat.mod_one]
  | succ n ih =>
    have split : v % 256 ^ (n + 1) = v / 256 ^ n % 256 * 256 ^ n + v % 256 ^ n := by
      rw [Nat.pow_succ, Nat.mod_mul, Nat.mul_comm, Nat.add_comm]
    simp only [beBytes, List.foldl_cons, ih, UInt8.toNat_ofNat', split]
    rw [Nat.add_mul, Nat.mul_assoc, ← Nat.pow_succ', Nat.add_assoc]

theorem ofBeBytes_beBytes (n v : Nat) : ofBeBytes (beBytes n v) = v % 256 ^ n := by
  rw [ofBeBytes, foldl_beBytes, Nat.zero_mul, Nat.zero_add]

theorem drop_beBytes (k n v : Nat) : (beBytes (k + n) v).drop k = beBytes n v := by
  induction k with
  | zero => rw [Nat.zero_add, List.drop_zero]
  | succ k ih =>
    rw [Nat.add_right_comm, beBytes, List.drop_succ_cons]
    exact ih

theorem take_beBytes (k n v : Nat) : (beBytes (k + n) v).take k = beBytes k (v / 256 ^ n) := by
  induction k with
  | zero => rfl
  | succ k ih =>
    rw [Nat.add_right_comm, beBytes, List.take_succ_cons, ih, beBytes, Nat.div_div_eq_div_mul,
      ← Nat.pow_add, Nat.add_comm n k]

theorem foldl_bytes_lt (bytes : List UInt8) (acc : Nat) :
    bytes.foldl (fun acc b => acc * 256 + b.toNat) acc < (acc + 1) * 256 ^ bytes.length := by
  induction bytes generalizing acc with
  | nil => simp
  | cons b bytes ih =>
    have next : acc * 256 + b.toNat + 1 ≤ (acc + 1) * 256 := by
      have := b.toNat_lt
      omega
    calc (b :: bytes).foldl (fun acc b => acc * 256 + b.toNat) acc
      _ < (acc * 256 + b.toNat + 1) * 256 ^ bytes.length := ih _
      _ ≤ (acc + 1) * 256 * 256 ^ bytes.length := Nat.mul_le_mul_right _ next
      _ = (acc + 1) * 256 ^ (b :: bytes).length := by
        rw [List.length_cons, Nat.pow_succ', Nat.mul_assoc]

theorem ofBeBytes_lt (bytes : List UInt8) : ofBeBytes bytes < 256 ^ bytes.length := by
  have bound := foldl_bytes_lt bytes 0
  rwa [Nat.zero_add, Nat.one_mul] at bound

theorem foldl_bytes_div (bytes : List UInt8) (acc : Nat) :
    bytes.foldl (fun acc b => acc * 256 + b.toNat) acc / 256 ^ bytes.length = acc := by
  induction bytes generalizing acc with
  | nil => exact Nat.div_one acc
  | cons b bytes ih =>
    rw [List.foldl_cons, List.length_cons, Nat.pow_succ, ← Nat.div_div_eq_div_mul, ih]
    have := b.toNat_lt
    omega

theorem beBytes_ofBeBytes (bytes : List UInt8) : beBytes bytes.length (ofBeBytes bytes) = bytes := by
  rw [ofBeBytes]
  generalize 0 = acc
  induction bytes generalizing acc with
  | nil => rfl
  | cons b bytes ih =>
    have byte : UInt8.ofNat (acc * 256 + b.toNat) = b := by
      apply UInt8.toNat_inj.mp
      have := b.toNat_lt
      rw [UInt8.toNat_ofNat']
      omega
    rw [List.length_cons, List.foldl_cons, beBytes, foldl_bytes_div, byte, ih]

/-- An unsigned number of `n` bytes. -/
def readNat (n : Nat) : Reader Nat := (Reader.take n).filterMap (fun bytes => some (ofBeBytes bytes))

theorem reads_readNat (n v : Nat) : Reads (readNat n) (beBytes n v) (v % 256 ^ n) := by
  have taken := Reads.take (beBytes n v)
  rw [length_beBytes] at taken
  exact taken.filterMap (congrArg some (ofBeBytes_beBytes n v))

end CppRsDriver.Lib
