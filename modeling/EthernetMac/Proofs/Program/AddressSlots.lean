import EthernetMac.Proofs.Program.Registers
import Mathlib.Logic.Function.Basic

/-!
The address slots of the device. Sixteen pairs of registers hold an address each and do not get
in each other's way: they are an array. Whatever is stored, in whichever order, a slot holds what
was stored in it last; the station address is the one in the first slot.
-/

namespace EthernetMac

theorem MacAddress.highWord_shiftRight (address : MacAddress) : address.highWord >>> 16 = 0 := by
  rw [← UInt32.toBitVec_inj]
  ext bit inside
  simp [highWord]
  grind

/-- An address that is stored in a slot, or taken for the station's. -/
inductive AddressStore where
  | into (slot : Fin 16) (address : MacAddress)
  | station (address : MacAddress)

namespace AddressStore

/-- Where the address goes. -/
def target : AddressStore → Fin 16
  | into slot _ => slot
  | station _ => 0

def address : AddressStore → MacAddress
  | into _ address => address
  | station address => address

def program {σ : Type} : AddressStore → Program σ Unit
  | into slot address => Program.writeAddress slot address
  | station address => Program.writeStation address

/-- What was stored in a slot last, in stores listed from the first to the last. -/
def last? (stores : List AddressStore) (slot : Fin 16) : Option MacAddress :=
  (stores.reverse.find? (·.target = slot)).map address

theorem last?_concat (stores : List AddressStore) (store : AddressStore) (slot : Fin 16) :
    last? (stores ++ [store]) slot =
      if store.target = slot then some store.address else last? stores slot := by
  by_cases here : store.target = slot <;> simp [last?, here]

/-- The two registers of a slot. -/
def pair (slot : Fin 16) : List Nat :=
  [(Register.addressHigh slot).offset, (Register.addressLow slot).offset]

theorem mem_pair {slot : Fin 16} {offset : Nat} :
    offset ∈ pair slot ↔ offset = 0x40 + 8 * slot ∨ offset = 0x44 + 8 * slot := by
  simp [pair, Register.offset]

theorem inert_of_mem_pair {slot : Fin 16} {offset : Nat} (listed : offset ∈ pair slot) :
    offset ∉ RegisterFile.reacting := by
  rw [mem_pair] at listed
  simp [RegisterFile.reacting, Register.offset]
  omega

/-- The pairs of two slots have no register in common. -/
theorem slot_eq_of_mem_pair {slot other : Fin 16} {offset : Nat} (here : offset ∈ pair slot)
    (there : offset ∈ pair other) : slot = other := by
  rw [mem_pair] at here there
  omega

end AddressStore

namespace RegisterFile

open AddressStore (pair last?)

/-- The addresses in the slots. -/
def addresses (file : RegisterFile) (slot : Fin 16) : MacAddress :=
  .ofWords (file.read (Register.addressHigh slot).offset)
    (file.read (Register.addressLow slot).offset)

/-- The registers once an address was stored. -/
def keep (file : RegisterFile) (store : AddressStore) : RegisterFile :=
  (file.write (Register.addressHigh store.target).offset store.address.highWord).write
    (Register.addressLow store.target).offset store.address.lowWord

section Keep

variable (file : RegisterFile) (store : AddressStore)

/-- No register of a slot reacts: what is written is stored. -/
theorem keep_eq : file.keep store =
    (file.store (Register.addressHigh store.target).offset store.address.highWord).store
      (Register.addressLow store.target).offset store.address.lowWord := by
  unfold keep
  have inert {offset : Nat} (listed : offset ∈ pair store.target) : offset ∉ reacting :=
    AddressStore.inert_of_mem_pair listed
  rw [write_of_inert (inert (by simp [pair])), write_of_inert (inert (by simp [pair]))]

theorem read_keep_high :
    (file.keep store).read (Register.addressHigh store.target).offset = store.address.highWord := by
  simp [keep_eq, read_store, Register.offset]

theorem read_keep_low :
    (file.keep store).read (Register.addressLow store.target).offset = store.address.lowWord := by
  simp [keep_eq]

theorem read_keep_other {offset : Nat} (elsewhere : offset ∉ pair store.target) :
    (file.keep store).read offset = file.read offset := by
  simp_all [keep_eq, read_store, pair]

/-- To store an address updates one element of the array. -/
theorem addresses_keep :
    (file.keep store).addresses = Function.update file.addresses store.target store.address := by
  funext slot
  by_cases here : slot = store.target
  · subst here
    simp [addresses, read_keep_high, read_keep_low]
  · have elsewhere (offset : Nat) (listed : offset ∈ pair slot) : offset ∉ pair store.target :=
      fun there => here (AddressStore.slot_eq_of_mem_pair listed there)
    rw [Function.update_of_ne here]
    unfold addresses
    rw [read_keep_other _ _ (elsewhere _ (by simp [pair])),
      read_keep_other _ _ (elsewhere _ (by simp [pair]))]

end Keep

/-! A series of stores. Each induction is on the series from its end, since the last store into a
slot is the one that counts. -/

section Series

variable (file : RegisterFile) (stores : List AddressStore)

theorem addresses_foldl_keep (slot : Fin 16) :
    (stores.foldl keep file).addresses slot = (last? stores slot).getD (file.addresses slot) := by
  induction stores using List.reverseRecOn with
  | nil => rfl
  | append_singleton stores store ih =>
    rw [List.foldl_concat, addresses_keep, AddressStore.last?_concat]
    by_cases here : store.target = slot
    · subst here
      simp
    · simp [here, Function.update_of_ne (Ne.symm here), ih]

theorem read_foldl_keep_other {offset : Nat}
    (elsewhere : ∀ store ∈ stores, offset ∉ pair store.target) :
    (stores.foldl keep file).read offset = file.read offset := by
  induction stores generalizing file with
  | nil => rfl
  | cons store stores ih =>
    rw [List.forall_mem_cons] at elsewhere
    rw [List.foldl_cons, ih _ elsewhere.2, read_keep_other _ _ elsewhere.1]

/-- The upper half of a high register stays clear once it is written. -/
theorem high_foldl_keep {store : AddressStore} (stored : store ∈ stores) :
    (stores.foldl keep file).read (Register.addressHigh store.target).offset >>> 16 = 0 := by
  induction stores using List.reverseRecOn with
  | nil => simp at stored
  | append_singleton stores latest ih =>
    rw [List.foldl_concat]
    by_cases here : store.target = latest.target
    · rw [here, read_keep_high, MacAddress.highWord_shiftRight]
    · have earlier : store ∈ stores := by
        simp at stored
        grind
      rw [read_keep_other, ih earlier]
      exact fun listed => here (AddressStore.slot_eq_of_mem_pair (by simp [pair]) listed)

/-- Nothing but cells of the window changes. -/
theorem foldl_keep_eq :
    stores.foldl keep file = { file with cells := (stores.foldl keep file).cells } := by
  induction stores generalizing file with
  | nil => rfl
  | cons store stores ih =>
    rw [List.foldl_cons, ih]
    simp [keep_eq, RegisterFile.store]

end Series

end RegisterFile

section Run

variable {σ : Type} (hardware : Hardware) (machine : Machine σ)

theorem run_store (store : AddressStore) :
    ∃ bus, (store.program.run hardware machine) = (.ok (), ⟨bus, machine.state⟩) ∧
      bus.registers = machine.bus.registers.keep store := by
  cases store <;> exact ⟨_, rfl, rfl⟩

theorem run_stores (stores : List AddressStore) :
    ∃ bus, (stores.forM AddressStore.program).run hardware machine =
        (.ok (), ⟨bus, machine.state⟩) ∧
      bus.registers = stores.foldl RegisterFile.keep machine.bus.registers := by
  induction stores generalizing machine with
  | nil => exact ⟨machine.bus, rfl, rfl⟩
  | cons store stores ih =>
    obtain ⟨stored, ran, kept⟩ := run_store hardware machine store
    obtain ⟨bus, rest, folded⟩ := ih ⟨stored, machine.state⟩
    refine ⟨bus, ?_, ?_⟩
    · rw [List.forM_eq_forM, List.forM_cons, Program.run_bind, ran]
      exact rest
    · rw [folded, kept, List.foldl_cons]

theorem readAddress_run (slot : Fin 16) :
    ((Program.readAddress slot).run hardware machine).1 =
      .ok (machine.bus.registers.addresses slot) := rfl

end Run

/-- The address slots are an array, whatever the registers hold before and whichever kind of
window they are in. After any series of stores a slot reads as what was stored in it last, or
else as it did before; the upper half of every high register written is clear, and nothing
changes but the registers of the slots written. The station address is slot 0. -/
theorem address_slots_form_array {σ : Type} (hardware : Hardware) (machine : Machine σ)
    (stores : List AddressStore) :
    ∃ after, (stores.forM AddressStore.program).run hardware machine = (.ok (), after) ∧
      after.state = machine.state ∧
      (∀ slot : Fin 16, ∃ before,
        ((Program.readAddress slot).run hardware machine).1 = .ok before ∧
        ((Program.readAddress slot).run hardware after).1 =
          .ok ((AddressStore.last? stores slot).getD before)) ∧
      (∃ before, (Program.readStation.run hardware machine).1 = .ok before ∧
        (Program.readStation.run hardware after).1 =
          .ok ((AddressStore.last? stores 0).getD before)) ∧
      (∀ store ∈ stores,
        after.bus.registers.read (Register.addressHigh store.target).offset >>> 16 = 0) ∧
      (∀ offset, (∀ store ∈ stores, offset ∉ AddressStore.pair store.target) →
        after.bus.registers.read offset = machine.bus.registers.read offset) ∧
      after.bus.registers =
        { machine.bus.registers with cells := after.bus.registers.cells } := by
  obtain ⟨bus, ran, folded⟩ := run_stores hardware machine stores
  have reads (slot : Fin 16) : ((Program.readAddress slot).run hardware ⟨bus, machine.state⟩).1 =
      .ok ((AddressStore.last? stores slot).getD (machine.bus.registers.addresses slot)) := by
    rw [readAddress_run, ← RegisterFile.addresses_foldl_keep, ← folded]
  refine ⟨⟨bus, machine.state⟩, ran, rfl, fun slot => ⟨_, readAddress_run .., reads slot⟩,
    ⟨_, readAddress_run hardware machine 0, reads 0⟩, ?high, ?other, ?cells⟩
  case high =>
    intro store stored
    rw [folded]
    exact RegisterFile.high_foldl_keep _ _ stored
  case other =>
    intro offset elsewhere
    rw [folded]
    exact RegisterFile.read_foldl_keep_other _ _ elsewhere
  case cells =>
    rw [folded]
    exact RegisterFile.foldl_keep_eq _ _

end EthernetMac
