import Chip8.Proofs.Machine.Execute

/-!
# Arithmetic and its flag

Registers are bytes, so a sum, a difference or a doubling may not fit in one. What does not fit goes
into the flag: the register and the flag together are the whole number that the instruction stands
for. This holds whichever registers the operands are, since they are all read before anything is
written; only if the result would go into the flag itself, the flag takes its place.

* `toNat_add_carry`, `toNat_sub_borrow`, … — a byte and its flag as a whole number;
* `Machine.Reckons` — what an instruction leaves in its register and in the flag;
* `reckons` — all of them set their register first, and then the flag;
* `arithmetic_is_exact` — the five instructions that do arithmetic with a flag.
-/

namespace Chip8

/-! ## Bytes and whole numbers -/

/-- A sum is what the byte keeps and the carry. -/
theorem toNat_add_carry (a b : UInt8) :
    (a + b).toNat + 256 * (decide (255 < a.toNat + b.toNat)).toNat = a.toNat + b.toNat := by
  have ha := a.toNat_lt
  have hb := b.toNat_lt
  rw [UInt8.toNat_add]
  by_cases h : 255 < a.toNat + b.toNat
  · rw [decide_eq_true h, Bool.toNat_true]
    omega
  · rw [decide_eq_false h, Bool.toNat_false]
    omega

/-- A difference is what the byte keeps, less the borrow. -/
theorem toNat_sub_borrow (a b : UInt8) :
    (a.toNat : Int) - b.toNat + 256 * (1 - (decide (b ≤ a)).toNat) = (a - b).toNat := by
  have ha := a.toNat_lt
  have hb := b.toNat_lt
  rw [UInt8.toNat_sub]
  by_cases h : b ≤ a
  · have hle : b.toNat ≤ a.toNat := h
    rw [decide_eq_true h, Bool.toNat_true]
    omega
  · have hlt : a.toNat < b.toNat := Nat.not_le.1 h
    rw [decide_eq_false h, Bool.toNat_false]
    omega

/-- A byte that is no more than one is the bit that it is one. -/
theorem toNat_beq_one {bit : UInt8} (h : bit.toNat ≤ 1) : (bit == 1).toNat = bit.toNat := by
  rcases Nat.le_one_iff_eq_zero_or_eq_one.1 h with h0 | h1
  · rw [UInt8.toNat_inj.1 (h0.trans UInt8.toNat_zero.symm)]
    rfl
  · rw [UInt8.toNat_inj.1 (h1.trans UInt8.toNat_one.symm)]
    rfl

/-- The bit that a shift to the right drops is the remainder by two. -/
theorem toNat_low_bit (a : UInt8) : (a &&& 1 == 1).toNat = a.toNat % 2 := by
  have hbit : (a &&& 1).toNat = a.toNat % 2 := by
    rw [UInt8.toNat_and, UInt8.toNat_one, Nat.and_one_is_mod]
  rw [toNat_beq_one (by omega), hbit]

/-- The bit that a shift to the left drops says whether the double fits. -/
theorem toNat_high_bit (a : UInt8) : (a >>> 7 == 1).toNat = a.toNat / 128 := by
  have ha := a.toNat_lt
  have hbit : (a >>> 7).toNat = a.toNat / 128 := Nat.shiftRight_eq_div_pow a.toNat 7
  rw [toNat_beq_one (by omega), hbit]

/-- A byte is twice its half and the bit that a shift to the right drops. -/
theorem toNat_half (a : UInt8) : 2 * (a >>> 1).toNat + (a &&& 1 == 1).toNat = a.toNat := by
  have hhalf : (a >>> 1).toNat = a.toNat / 2 := Nat.shiftRight_eq_div_pow a.toNat 1
  rw [toNat_low_bit, hhalf, Nat.div_add_mod]

/-- A double is what the byte keeps and the bit that a shift to the left drops. -/
theorem toNat_double (a : UInt8) : (a <<< 1).toNat + 256 * (a >>> 7 == 1).toNat = 2 * a.toNat := by
  have ha := a.toNat_lt
  have hdouble : (a <<< 1).toNat = 2 * a.toNat % 256 := by
    rw [UInt8.toNat_shiftLeft, Nat.shiftLeft_eq, Nat.mul_comm]
    rfl
  rw [toNat_high_bit, hdouble]
  omega

namespace Machine

variable {m : Machine} {i : Instruction} {x : UInt8} {told : Int → Prop}
  {balance : Int → Int → Prop}

/-! ## Instructions that tell something in the flag -/

/-- An instruction leaves zero or one in the flag, as `told` says, and in register `x` a value for
which `balance` says how it goes together with the flag. If `x` is the flag there is only the flag.
No other register is set, and the instruction is carried out if there is a next word. -/
structure Reckons (m : Machine) (i : Instruction) (x : UInt8) (told : Int → Prop)
    (balance : Int → Int → Prop) : Prop where
  /-- the flag is zero or one -/
  bit : (m.execute i).machine.reg Exec.flag = 0 ∨ (m.execute i).machine.reg Exec.flag = 1
  /-- the flag tells what it has to -/
  told : told ((m.execute i).machine.reg Exec.flag).toNat
  /-- the value and the flag together are the result -/
  balance : x ≠ Exec.flag →
    balance ((m.execute i).machine.reg x).toNat ((m.execute i).machine.reg Exec.flag).toNat
  /-- the other registers stay -/
  others : ∀ z, z ≠ x → z ≠ Exec.flag → (m.execute i).machine.reg z = m.reg z
  /-- the instruction is carried out -/
  result : m.pc.toNat + 2 < 0x10000 → (m.execute i).result = .ok (.executed i)

/-- **Setting a register and then the flag** leaves what the two were set to. -/
theorem reckons {value : UInt8} {on : Bool} (hx : x < 16) (hr : ∀ z ∈ i.registers, z < 16)
    (hk : ∀ z, i ≠ .awaitKey z) (hi : i.isControlFlow = false) (ho : i.outcome = .executed i)
    (ha : m.apply i = .ok ((m.setRegister x value).setFlag on)) (htold : told on.toNat)
    (hbalance : balance value.toNat on.toNat) : m.Reckons i x told balance := by
  obtain ⟨pc, hmachine, hresult⟩ := exists_execute hr hk hi ha
  have hreg (z : UInt8) : (m.execute i).machine.reg z =
      ((m.setRegister x value).setFlag on).reg z := by
    rw [hmachine]
    rfl
  have hflag : (m.execute i).machine.reg Exec.flag = on.toUInt8 := by
    rw [hreg, reg_setFlag]
  have hnat : (on.toUInt8.toNat : Int) = on.toNat := by cases on <;> rfl
  constructor
  case bit =>
    rw [hflag]
    cases on
    · exact .inl rfl
    · exact .inr rfl
  case told => rwa [hflag, hnat]
  case balance =>
    intro hne
    rwa [hflag, hnat, hreg, reg_setFlag_of_ne _ _ hne, reg_setRegister _ hx]
  case others =>
    intro z hz hzf
    rw [hreg, reg_setFlag_of_ne _ _ hzf, reg_setRegister_of_ne _ hz]
  case result =>
    intro hpc
    rw [← ho]
    exact (hresult hpc).1

/-- A shift reads one of its registers, as the dialect says. -/
theorem toNat_shiftSource (m : Machine) (x y : UInt8) :
    ((m.shiftSource x y).toNat : Int) =
      if m.dialect.shiftReadsY then ((m.reg y).toNat : Int) else (m.reg x).toNat := by
  rw [shiftSource]
  split <;> rfl

/-- **Arithmetic is exact.** The flag tells the carry of a sum, the borrow of a difference, either
way round, and the bit that falls out of a shift, and the register and the flag together are the
sum, the difference, or twice or half of what the shift reads. The two registers may be the same,
and each of them may be the flag. -/
theorem arithmetic_is_exact (m : Machine) {x y : UInt8} (hx : x < 16) (hy : y < 16) :
    let vx : Int := (m.reg x).toNat
    let vy : Int := (m.reg y).toNat
    let source : Int := if m.dialect.shiftReadsY then vy else vx
    m.Reckons (.addReg x y) x (fun flag => flag = 1 ↔ 255 < vx + vy)
      (fun value flag => value + 256 * flag = vx + vy) ∧
    m.Reckons (.subReg x y) x (fun flag => flag = 1 ↔ vy ≤ vx)
      (fun value flag => value = vx - vy + 256 * (1 - flag)) ∧
    m.Reckons (.subFrom x y) x (fun flag => flag = 1 ↔ vx ≤ vy)
      (fun value flag => value = vy - vx + 256 * (1 - flag)) ∧
    m.Reckons (.shiftRight x y) x (fun flag => flag = source % 2)
      (fun value flag => 2 * value + flag = source) ∧
    m.Reckons (.shiftLeft x y) x (fun flag => flag = source / 128)
      (fun value flag => value + 256 * flag = 2 * source) := by
  intro vx vy source
  have hr : ∀ z ∈ [x, y], z < 16 := by simp [hx, hy]
  have hsource : source = ((m.shiftSource x y).toNat : Int) := (toNat_shiftSource m x y).symm
  have hbit (p : Prop) [Decidable p] : ((decide p).toNat : Int) = 1 ↔ p := by
    by_cases hp : p <;> simp [hp]
  refine ⟨?_, ?_, ?_, ?_, ?_⟩
  · refine reckons hx hr nofun rfl rfl rfl ((hbit _).trans ?_) ?_
    · exact Int.ofNat_lt.symm
    · exact congrArg Nat.cast (toNat_add_carry (m.reg x) (m.reg y))
  · refine reckons hx hr nofun rfl rfl rfl ((hbit _).trans ?_) ?_
    · exact Int.ofNat_le.symm
    · exact (toNat_sub_borrow (m.reg x) (m.reg y)).symm
  · refine reckons hx hr nofun rfl rfl rfl ((hbit _).trans ?_) ?_
    · exact Int.ofNat_le.symm
    · exact (toNat_sub_borrow (m.reg y) (m.reg x)).symm
  · rw [hsource]
    refine reckons hx hr nofun rfl rfl rfl ?_ ?_
    · exact congrArg Nat.cast (toNat_low_bit (m.shiftSource x y))
    · exact congrArg Nat.cast (toNat_half (m.shiftSource x y))
  · rw [hsource]
    refine reckons hx hr nofun rfl rfl rfl ?_ ?_
    · exact congrArg Nat.cast (toNat_high_bit (m.shiftSource x y))
    · exact congrArg Nat.cast (toNat_double (m.shiftSource x y))

/-- A register and the flag itself are added. -/
theorem flag_is_an_operand :
    let m := (boot {} .loaded).obeyAll [.setRegister 3 200, .setRegister 0xF 100]
    let n := (m.execute (.addReg 3 0xF)).machine
    (3 : UInt8) < 16 ∧ (0xF : UInt8) < 16 ∧ n.reg 0xF = 1 ∧
      ((n.reg 3).toNat : Int) + 256 * (n.reg 0xF).toNat = 200 + 100 := by
  intro m n
  obtain ⟨hadd, -⟩ := arithmetic_is_exact m (x := 3) (y := 0xF) (by decide) (by decide)
  have hflag : ((n.reg 0xF).toNat : Int) = 1 := hadd.told.2 (by decide +kernel)
  exact ⟨by decide, by decide, UInt8.toNat_inj.1 (Int.ofNat_inj.1 hflag), hadd.balance (by decide)⟩

end Machine

end Chip8
