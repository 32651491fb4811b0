import BytePattern.Proofs.Region.Number

/-!
# What expressions mean

An expression denotes a number modulo 2^64, said in terms of integers: sums, differences and
products are those of the integers, quotients and remainders those of the natural numbers, the
other operators work on every bit, and a load denotes the number that its bytes stand for. A part
of an expression is at fault by itself if its operands denote numbers of which it makes none. The
evaluation yields the number denoted, or else the first fault in post-order.
-/

namespace BytePattern.Expression

/-! ## Operators and loads -/

/-- What an operator makes of two numbers. -/
def Operator.Makes (operator : Operator) (left right result : UInt64) : Prop :=
  match operator with
  | .add => (result.toNat : ℤ) = (left.toNat + right.toNat) % 2 ^ 64
  | .sub => (result.toNat : ℤ) = (left.toNat - right.toNat) % 2 ^ 64
  | .mul => (result.toNat : ℤ) = left.toNat * right.toNat % 2 ^ 64
  | .div => right.toNat ≠ 0 ∧ result.toNat = left.toNat / right.toNat
  | .mod => right.toNat ≠ 0 ∧ result.toNat = left.toNat % right.toNat
  | .and => ∀ i, result.toNat.testBit i = (left.toNat.testBit i && right.toNat.testBit i)
  | .xor => ∀ i, result.toNat.testBit i = (left.toNat.testBit i != right.toNat.testBit i)
  | .or => ∀ i, result.toNat.testBit i = (left.toNat.testBit i || right.toNat.testBit i)

/-- The bytes from an address on, in the first region that holds all of them. -/
def Stored (regions : List Region) (address : UInt64) (bytes : List UInt8) : Prop :=
  ∃ region, (regions.find? fun region => region.HoldsAll address bytes.length) = some region ∧
    region.Shows address bytes

/-- What a load makes of an address. -/
def Load.Makes (load : Load) (regions : List Region) (address result : UInt64) : Prop :=
  ∃ bytes, bytes.length = load.width.bytes ∧ Stored regions address bytes ∧
    (result.toNat : ℤ) = ((if load.relative then (address.toNat : ℤ) else 0) +
      (if load.signed then signedNumber bytes else unsignedNumber bytes)) % 2 ^ 64

section Operators

variable {operator : Operator} {load : Load} {left right result address : UInt64}
  {regions : List Region} {error : EvaluationError}

theorem toNat_eq_iff (word : UInt64) {number : ℤ} (equal : (word.toNat : ℤ) = number) :
    (result.toNat : ℤ) = number ↔ word = result := by
  rw [← equal, Nat.cast_inj, UInt64.toNat_inj, eq_comm]

theorem testBit_eq_iff (word : UInt64) {bits : ℕ → Bool}
    (equal : ∀ i, word.toNat.testBit i = bits i) :
    (∀ i, result.toNat.testBit i = bits i) ↔ word = result := by
  constructor
  · intro same
    apply UInt64.toNat_inj.1
    apply Nat.eq_of_testBit_eq
    intro i
    rw [equal, same]
  · rintro rfl
    exact equal

/-- An operator has exactly the result that it makes of its operands. -/
theorem Operator.apply_eq_ok_iff :
    operator.apply left right = .ok result ↔ operator.Makes left right result := by
  have divisor : right = 0 ↔ right.toNat = 0 := UInt64.toNat_inj.symm
  have bound := right.toNat_lt
  cases operator with
  | add =>
      rw [Makes, toNat_eq_iff (left + right) (by rw [UInt64.toNat_add]; push_cast; rfl)]
      simp [apply]
  | sub =>
      rw [Makes, toNat_eq_iff (left - right) (by rw [UInt64.toNat_sub]; omega)]
      simp [apply]
  | mul =>
      rw [Makes, toNat_eq_iff (left * right) (by rw [UInt64.toNat_mul]; push_cast; rfl)]
      simp [apply]
  | div =>
      rw [Makes, ← UInt64.toNat_div, UInt64.toNat_inj, eq_comm (a := result)]
      by_cases zero : right.toNat = 0 <;> simp [apply, divisor, zero]
  | mod =>
      rw [Makes, ← UInt64.toNat_mod, UInt64.toNat_inj, eq_comm (a := result)]
      by_cases zero : right.toNat = 0 <;> simp [apply, divisor, zero]
  | and =>
      rw [Makes, testBit_eq_iff (left &&& right) (by simp)]
      simp [apply]
  | xor =>
      rw [Makes, testBit_eq_iff (left ^^^ right) (by simp)]
      simp [apply]
  | or =>
      rw [Makes, testBit_eq_iff (left ||| right) (by simp)]
      simp [apply]

/-- Only divisions fail, and only by zero. -/
theorem Operator.apply_eq_error_iff : operator.apply left right = .error error ↔
    (operator = .div ∨ operator = .mod) ∧ right = 0 ∧ error = .divideByZero := by
  cases operator with
  | div => by_cases zero : right = 0 <;> simp [apply, zero, eq_comm]
  | mod => by_cases zero : right = 0 <;> simp [apply, zero, eq_comm]
  | _ => simp [apply]

/-- The first region from which a number can be read is the first that holds its bytes. -/
theorem findSome?_readNumber?_eq (width : Width) (regions : List Region) (address : UInt64) :
    (regions.findSome? fun region => region.readNumber? address width.bytes) =
      (regions.find? fun region => region.HoldsAll address width.bytes).map fun region =>
        Region.joinBytes (region.bytesAt address width.bytes) := by
  induction regions with
  | nil => rfl
  | cons region rest ih =>
      rw [List.findSome?_cons, List.find?_cons, ih,
        Region.readNumber?_eq width.bytes_pos width.bytes_le]
      by_cases holds : region.HoldsAll address width.bytes <;> simp [holds]

theorem toNat_stored {width : Width} {bytes : List UInt8} (length : bytes.length = width.bytes) :
    (Region.joinBytes bytes).toNat = unsignedNumber bytes := by
  rw [← Region.littleEndian_eq_unsignedNumber, Region.toNat_joinBytes]
  rw [length]
  exact width.bytes_le

/-- The sign and the address are taken into account modulo 2^64. -/
theorem Load.toNat_result (address : UInt64) {stored : UInt64} {bytes : List UInt8}
    (length : bytes.length = load.width.bytes) (number : stored.toNat = unsignedNumber bytes) :
    let value := if load.signed then load.width.signExtend stored else stored
    ((if load.relative then address + value else value).toNat : ℤ) =
      ((if load.relative then (address.toNat : ℤ) else 0) +
        (if load.signed then signedNumber bytes else unsignedNumber bytes)) % 2 ^ 64 := by
  intro value
  have valueEq : (value.toNat : ℤ) =
      (if load.signed then signedNumber bytes else unsignedNumber bytes) % 2 ^ 64 := by
    cases signed : load.signed
    · have bound := stored.toNat_lt
      simp only [value, signed, Bool.false_eq_true, if_false, ← number]
      omega
    · simpa only [value, signed, if_true] using toNat_signExtend length number
  cases relative : load.relative
  · simpa using valueEq
  · simp only [if_true, UInt64.toNat_add]
    omega

theorem Load.apply_eq_ok_iff :
    load.apply regions address = .ok result ↔ load.Makes regions address result := by
  rw [apply, findSome?_readNumber?_eq]
  cases found : regions.find? fun region => region.HoldsAll address load.width.bytes with
  | none =>
      simp only [Option.map_none, reduceCtorEq, false_iff]
      rintro ⟨bytes, length, ⟨region, found', -⟩, -⟩
      rw [length, found] at found'
      cases found'
  | some region =>
      have holds : region.HoldsAll address load.width.bytes := by simpa using List.find?_some found
      have length := Region.length_bytesAt holds
      have equal := load.toNat_result address length (toNat_stored length)
      simp only [Option.map_some, Except.ok.injEq]
      rw [← toNat_eq_iff _ equal]
      constructor
      · intro number
        refine ⟨_, length, ⟨region, ?_, Region.shows_bytesAt holds⟩, number⟩
        rw [length, found]
      · rintro ⟨bytes, length', ⟨other, found', shown⟩, number⟩
        rw [length', found] at found'
        cases found'
        rw [shown.eq_bytesAt (length' ▸ holds), length'] at number
        exact number

theorem Load.apply_eq_error_iff : load.apply regions address = .error error ↔
    (∀ region ∈ regions, ¬ region.HoldsAll address load.width.bytes) ∧
      error = .unreadable address load.width.bytes := by
  rw [apply, findSome?_readNumber?_eq]
  cases found : regions.find? fun region => region.HoldsAll address load.width.bytes with
  | none =>
      have absent : ∀ region ∈ regions, ¬ region.HoldsAll address load.width.bytes := by
        simpa using found
      simp only [Option.map_none, Except.error.injEq, and_iff_right absent, eq_comm]
  | some region =>
      have holds : region.HoldsAll address load.width.bytes := by simpa using List.find?_some found
      simp only [Option.map_some, reduceCtorEq, false_iff]
      rintro ⟨absent, -⟩
      exact absent region (List.mem_of_find?_eq_some found) holds

end Operators

/-! ## Terms -/

namespace Term

/-- The number that a term denotes for a match at `here`. -/
inductive Denotes (here : UInt64) (regions : List Region) : Term → UInt64 → Prop
  | number (value : UInt64) : Denotes here regions (.number value) value
  | here : Denotes here regions .here here
  | binary {operator : Operator} {left right : Term} {first second result : UInt64} :
      Denotes here regions left first → Denotes here regions right second →
      operator.Makes first second result →
      Denotes here regions (.binary operator left right) result
  | load {access : Load} {address : Term} {place result : UInt64} :
      Denotes here regions address place → access.Makes regions place result →
      Denotes here regions (.load access address) result

/-- The fault of a term whose operands all denote numbers: it divides by zero, or no region holds
all the bytes that it loads. -/
inductive Faults (here : UInt64) (regions : List Region) : Term → EvaluationError → Prop
  | division {operator : Operator} {left right : Term} {first : UInt64} :
      operator = .div ∨ operator = .mod → Denotes here regions left first →
      Denotes here regions right 0 →
      Faults here regions (.binary operator left right) .divideByZero
  | load {access : Load} {address : Term} {place : UInt64} :
      Denotes here regions address place →
      (∀ region ∈ regions, ¬ region.HoldsAll place access.width.bytes) →
      Faults here regions (.load access address) (.unreadable place access.width.bytes)

/-- The parts of a term, itself included: operands from the left to the right, each part behind its
own operands. -/
def postorder : Term → List Term
  | .number value => [.number value]
  | .here => [.here]
  | .binary operator left right =>
    left.postorder ++ (right.postorder ++ [.binary operator left right])
  | .load access address => address.postorder ++ [.load access address]

section Evaluation

variable {here : UInt64} {regions : List Region} {value : UInt64} {error : EvaluationError}

theorem evaluate_eq_ok_iff (term : Term) :
    term.evaluate here regions = .ok value ↔ Denotes here regions term value := by
  induction term generalizing value with
  | number own =>
      constructor
      · rintro ⟨⟩
        exact .number own
      · rintro ⟨⟩
        rfl
  | here =>
      constructor
      · rintro ⟨⟩
        exact .here
      · rintro ⟨⟩
        rfl
  | binary operator left right ihLeft ihRight =>
      constructor
      · intro read
        cases first : left.evaluate here regions with
        | error reason => simp [evaluate, first, bind, Except.bind] at read
        | ok first' =>
            cases second : right.evaluate here regions with
            | error reason => simp [evaluate, first, second, bind, Except.bind] at read
            | ok second' =>
                simp only [evaluate, first, second, bind, Except.bind] at read
                exact .binary (ihLeft.1 first) (ihRight.1 second) (Operator.apply_eq_ok_iff.1 read)
      · rintro (_ | _ | ⟨first, second, makes⟩)
        simp only [evaluate, ihLeft.2 first, ihRight.2 second, bind, Except.bind]
        exact Operator.apply_eq_ok_iff.2 makes
  | load access address ih =>
      constructor
      · intro read
        cases place : address.evaluate here regions with
        | error reason => simp [evaluate, place, bind, Except.bind] at read
        | ok place' =>
            simp only [evaluate, place, bind, Except.bind] at read
            exact .load (ih.1 place) (Load.apply_eq_ok_iff.1 read)
      · rintro (_ | _ | _ | ⟨place, makes⟩)
        simp only [evaluate, ih.2 place, bind, Except.bind]
        exact Load.apply_eq_ok_iff.2 makes

/-- The first of some terms that are at fault by themselves, and its fault. -/
def FirstFault (here : UInt64) (regions : List Region) (parts : List Term)
    (error : EvaluationError) : Prop :=
  ∃ before part after, parts = before ++ part :: after ∧
    (∀ earlier ∈ before, ∀ other, ¬ Faults here regions earlier other) ∧
    Faults here regions part error

theorem firstFault_nil : ¬ FirstFault here regions [] error := by
  rintro ⟨before, part, after, split, -⟩
  simp at split

theorem firstFault_cons {part : Term} {rest : List Term} :
    FirstFault here regions (part :: rest) error ↔ Faults here regions part error ∨
      (∀ other, ¬ Faults here regions part other) ∧ FirstFault here regions rest error := by
  constructor
  · rintro ⟨before, found, after, split, none, fault⟩
    cases before with
    | nil =>
        cases split
        exact .inl fault
    | cons first before =>
        cases split
        rw [List.forall_mem_cons] at none
        exact .inr ⟨none.1, before, found, after, rfl, none.2, fault⟩
  · rintro (fault | ⟨none, before, found, after, rfl, others, fault⟩)
    · exact ⟨[], part, rest, rfl, by simp, fault⟩
    · exact ⟨part :: before, found, after, rfl, List.forall_mem_cons.2 ⟨none, others⟩, fault⟩

theorem firstFault_singleton {part : Term} :
    FirstFault here regions [part] error ↔ Faults here regions part error := by
  simp [firstFault_cons, firstFault_nil]

/-- Without a first fault there is none at all. -/
theorem firstFault_append {first second : List Term} :
    FirstFault here regions (first ++ second) error ↔ FirstFault here regions first error ∨
      (∀ other, ¬ FirstFault here regions first other) ∧
        FirstFault here regions second error := by
  induction first with
  | nil => simp [firstFault_nil]
  | cons part rest ih =>
      rw [List.cons_append]
      simp only [firstFault_cons, ih, not_or, not_and, forall_and]
      constructor
      · rintro (fault | ⟨none, earlier | ⟨others, later⟩⟩)
        · exact .inl (.inl fault)
        · exact .inl (.inr ⟨none, earlier⟩)
        · exact .inr ⟨⟨none, fun other _ => others other⟩, later⟩
      · rintro ((fault | ⟨none, earlier⟩) | ⟨⟨none, others⟩, later⟩)
        · exact .inl fault
        · exact .inr ⟨none, .inl earlier⟩
        · exact .inr ⟨none, .inr ⟨fun other => others other none, later⟩⟩

/-- With operands that denote numbers, a fault of the whole is one of its operator. -/
theorem faults_binary_iff {operator : Operator} {left right : Term} {first second : UInt64}
    (leftValue : left.evaluate here regions = .ok first)
    (rightValue : right.evaluate here regions = .ok second) :
    Faults here regions (.binary operator left right) error ↔
      operator.apply first second = .error error := by
  rw [Operator.apply_eq_error_iff]
  constructor
  · rintro (⟨division, -, zero⟩ | _)
    rw [← evaluate_eq_ok_iff, rightValue] at zero
    exact ⟨division, Except.ok.inj zero, rfl⟩
  · rintro ⟨division, rfl, rfl⟩
    exact .division division ((evaluate_eq_ok_iff _).1 leftValue)
      ((evaluate_eq_ok_iff _).1 rightValue)

theorem faults_load_iff {access : Load} {address : Term} {place : UInt64}
    (placeValue : address.evaluate here regions = .ok place) :
    Faults here regions (.load access address) error ↔
      access.apply regions place = .error error := by
  rw [Load.apply_eq_error_iff]
  constructor
  · rintro (_ | ⟨denoted, absent⟩)
    rw [← evaluate_eq_ok_iff, placeValue] at denoted
    cases denoted
    exact ⟨absent, rfl⟩
  · rintro ⟨absent, rfl⟩
    exact .load ((evaluate_eq_ok_iff _).1 placeValue) absent

-- The operands come first in post-order, so their faults are looked for before that of the whole.
theorem evaluate_eq_error_iff (term : Term) : term.evaluate here regions = .error error ↔
    FirstFault here regions term.postorder error := by
  induction term generalizing error with
  | number value =>
      rw [postorder, firstFault_singleton]
      constructor <;> rintro ⟨⟩
  | here =>
      rw [postorder, firstFault_singleton]
      constructor <;> rintro ⟨⟩
  | binary operator left right ihLeft ihRight =>
      rw [postorder, firstFault_append, firstFault_append, firstFault_singleton]
      simp only [← ihLeft, ← ihRight]
      cases first : left.evaluate here regions with
      | error reason => simp [evaluate, first, bind, Except.bind]
      | ok first' =>
          cases second : right.evaluate here regions with
          | error reason => simp [evaluate, first, second, bind, Except.bind]
          | ok second' =>
              simp [evaluate, first, second, bind, Except.bind, faults_binary_iff first second]
  | load access address ih =>
      rw [postorder, firstFault_append, firstFault_singleton]
      simp only [← ih]
      cases place : address.evaluate here regions with
      | error reason => simp [evaluate, place, bind, Except.bind]
      | ok place' => simp [evaluate, place, bind, Except.bind, faults_load_iff place]

end Evaluation

end Term

/-- An expression evaluates to the number that its tree denotes. If it denotes none, the error is
the fault of the first part in post-order that is at fault by itself. -/
theorem evaluate_eq_denoted_or_first_fault (expression : Expression) (here : UInt64)
    (regions : List Region) :
    (∀ value, expression.evaluate here regions = .ok value ↔
      Term.Denotes here regions expression.root value) ∧
    ∀ error, expression.evaluate here regions = .error error ↔
      Term.FirstFault here regions expression.root.postorder error :=
  ⟨fun _ => Term.evaluate_eq_ok_iff _, fun _ => Term.evaluate_eq_error_iff _⟩

-- The divisor is looked at only when both operands have a value.
example : (Term.binary .div (.load .plain .here) (.number 0)).evaluate 0x10 [] =
    .error (.unreadable 0x10 8) := rfl

end BytePattern.Expression
