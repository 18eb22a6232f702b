import TapeMachine.Network.Proxy
import TapeMachine.Proofs.Network.Literals

/-! Address literals are routed by their value.
However an address is written, alone or with a port, it is judged without looking anything up. A
text that denotes an address has no port by itself: a long one has too many colons for that. What is
found local is connected to straight on, and the outlet is not even asked for.
-/

namespace TapeMachine.Network

-----------------------------------------------------------------------------------------
-- Local addresses
-----------------------------------------------------------------------------------------

namespace IpAddress

/-- An address begins with the same bits as the first one of its block. -/
def InBlock (first : IpAddress) (length : Nat) (address : IpAddress) : Prop :=
  ∀ place < length, address.bits.getMsbD place = first.bits.getMsbD place

instance (first : IpAddress) (length : Nat) (address : IpAddress)
    : Decidable (InBlock first length address) :=
  Nat.decidableBallLT length fun place _ => address.bits.getMsbD place = first.bits.getMsbD place

/-- A block of short addresses. They all begin with the same 96 bits. -/
def InShortBlock (a b c d length : Nat) (address : IpAddress) : Prop :=
  InBlock (ofBytes a b c d) (96 + length) address

instance (a b c d length : Nat) (address : IpAddress)
    : Decidable (InShortBlock a b c d length address) :=
  inferInstanceAs (Decidable (InBlock _ _ _))

/-- An address leads back to the host, or to a network that is set aside for private use. -/
def StaysLocal (address : IpAddress) : Prop :=
  InShortBlock 127 0 0 0 8 address
  ∨ InShortBlock 10 0 0 0 8 address
  ∨ InShortBlock 172 16 0 0 12 address
  ∨ InShortBlock 192 168 0 0 16 address
  ∨ address = ofGroups [0, 0, 0, 0, 0, 0, 0, 1]
  ∨ InBlock (ofGroups [0xfc00, 0, 0, 0, 0, 0, 0, 0]) 7 address

instance (address : IpAddress) : Decidable address.StaysLocal :=
  inferInstanceAs (Decidable (_ ∨ _ ∨ _ ∨ _ ∨ _ ∨ _))

/-- Two numbers without their last bits are the same exactly if the bits that are left are. -/
theorem div_two_pow_eq_iff {left right : BitVec 128} {length : Nat} (fits : length ≤ 128)
    : left.toNat / 2 ^ (128 - length) = right.toNat / 2 ^ (128 - length)
      ↔ ∀ place < length, left.getMsbD place = right.getMsbD place := by
  have bit (bits : BitVec 128) {place : Nat} (inside : place < 128)
      : bits.getMsbD (127 - place) = bits.toNat.testBit place := by
    rw [BitVec.getMsbD_eq_getLsbD, decide_eq_true (by omega), Bool.true_and, BitVec.getLsbD]
    congr 1
    omega
  constructor
  · intro same place before
    have shifted := congrArg (Nat.testBit · (length - 1 - place)) same
    simp only [Nat.testBit_div_two_pow] at shifted
    have turned : length - 1 - place + (128 - length) = 127 - place := by omega
    rw [turned, ← bit left (by omega), ← bit right (by omega)] at shifted
    have back : 127 - (127 - place) = place := by omega
    rwa [back] at shifted
  · intro agree
    apply Nat.eq_of_testBit_eq
    intro place
    rw [Nat.testBit_div_two_pow, Nat.testBit_div_two_pow]
    by_cases inside : place + (128 - length) < 128
    · rw [← bit left inside, ← bit right inside]
      exact agree _ (by omega)
    -- Both quotients have no more bits than are left.
    · have beyond (bits : BitVec 128) : bits.toNat.testBit (place + (128 - length)) = false :=
        bits.getLsbD_of_ge _ (by omega)
      rw [beyond, beyond]

theorem contains_iff (first address : IpAddress) {length : Nat} (fits : length ≤ 128)
    : AddressRange.contains ⟨first.bits.toNat, 128 - length⟩ address = true
      ↔ InBlock first length address := by
  rw [AddressRange.contains, beq_iff_eq]
  exact div_two_pow_eq_iff fits

theorem inBlock_128_iff {first address : IpAddress}
    : InBlock first 128 address ↔ address = first := by
  constructor
  · intro agree
    have same : address.bits = first.bits := BitVec.eq_of_getMsbD_eq agree
    cases address
    cases first
    exact congrArg IpAddress.mk same
  · rintro rfl place _
    rfl

/-- The ranges that an address is compared with are the blocks of those that stay local. -/
theorem isLocal_iff {address : IpAddress} : address.isLocal = true ↔ address.StaysLocal := by
  have host := contains_iff (ofBytes 127 0 0 0) address (by decide : 104 ≤ 128)
  have large := contains_iff (ofBytes 10 0 0 0) address (by decide : 104 ≤ 128)
  have middle := contains_iff (ofBytes 172 16 0 0) address (by decide : 108 ≤ 128)
  have small := contains_iff (ofBytes 192 168 0 0) address (by decide : 112 ≤ 128)
  have loopback :=
    contains_iff (ofGroups [0, 0, 0, 0, 0, 0, 0, 1]) address (by decide : 128 ≤ 128)
  have unique :=
    contains_iff (ofGroups [0xfc00, 0, 0, 0, 0, 0, 0, 0]) address (by decide : 7 ≤ 128)
  rw [inBlock_128_iff] at loopback
  simp only [isLocal, localRanges, List.any_cons, List.any_nil, Bool.or_eq_true, Bool.false_eq_true,
    or_false]
  exact or_congr host (or_congr large (or_congr middle (or_congr small (or_congr loopback unique))))

/-- Of the short addresses those that stay local are told by their first two bytes. -/
theorem staysLocal_ofBytes_iff {a b c d : Nat} (first : a < 256) (second : b < 256)
    (third : c < 256) (fourth : d < 256)
    : (ofBytes a b c d).StaysLocal
      ↔ a = 127 ∨ a = 10 ∨ (a = 172 ∧ 16 ≤ b ∧ b < 32) ∨ (a = 192 ∧ b = 168) := by
  have number : (ofBytes a b c d).bits.toNat = shortNumber a b c d := by
    rw [ofBytes, BitVec.toNat_ofNat, Nat.mod_eq_of_lt]
    simp only [shortNumber]
    omega
  simp only [← isLocal_iff, isLocal, localRanges, List.any_cons, List.any_nil, Bool.or_eq_true,
    Bool.false_eq_true, or_false, AddressRange.contains, number, beq_iff_eq, shortNumber,
    Nat.pow_eq]
  omega

/-- The long way to write a short address: behind the group that marks it as one. -/
def marked (marker short : List Char) : List Char := ':' :: ':' :: (marker ++ ':' :: short)

theorem WritesBytes.denotes_marked {short : List Char} {a b c d : Nat}
    (bytes : WritesBytes short a b c d) {marker : List Char} (marks : WritesGroup marker 0xffff)
    : Denotes (marked marker short) (ofBytes a b c d) := by
  have long := DenotesLong.shortened .nothing (.groups (.more marks (.bytes rfl bytes))) (by simp)
  have same : ofGroups ([] ++ List.replicate 5 0 ++ [0xffff, a * 256 + b, c * 256 + d])
      = ofBytes a b c d := by
    simp only [ofGroups, ofBytes, groupsNumber, shortNumber]
    congr 2
    simp
    omega
  exact .long (same ▸ long)

end IpAddress

-----------------------------------------------------------------------------------------
-- Hosts with ports
-----------------------------------------------------------------------------------------

/-- A host with a port, in brackets if it has colons. -/
def hostPort (host port : List Char) : List Char :=
  if ':' ∈ host then '[' :: (host ++ ']' :: ':' :: port) else host ++ ':' :: port

section

open IpAddress

variable {literal port : List Char} {address : IpAddress}

/-- Without an opening bracket, the host is what stands before the last colon, unless it is bad. -/
theorem hostOf?_append {front rest : List Char} (last : ':' ∉ rest) (opening : '[' ∉ front)
    : hostOf? (front ++ ':' :: rest)
      = if rest.contains '[' || rest.contains ']' then none
        else if [':', '[', ']'].any front.contains then none
        else some front := by
  rw [hostOf?, Text.cutLast_append last]
  cases front with
  | nil => rfl
  | cons c front =>
      have other : c ≠ '[' := by
        rintro rfl
        exact opening List.mem_cons_self
      simp [other]

theorem IpAddress.Denotes.two_le_count (denotes : Denotes literal address) (colon : ':' ∈ literal)
    : 2 ≤ literal.count ':' := by
  cases denotes with
  | short bytes => exact absurd colon (bytes.not_mem (by decide) (by decide))
  | long groups => exact groups.two_le_count

/-- Behind the last colon nothing is cut off: what stands before it has a colon left, and no bracket
to allow for one.
-/
theorem hostOf?_literal (denotes : Denotes literal address) : hostOf? literal = none := by
  by_cases colon : ':' ∈ literal
  · have opening : '[' ∉ literal := denotes.isPlain.not_mem (by decide) (by decide)
    have two := denotes.two_le_count colon
    obtain ⟨front, rest, rfl, absent⟩ := Text.exists_last_of_mem colon
    have before : ':' ∈ front := by
      rw [List.count_append, List.count_cons_self, List.count_eq_zero_of_not_mem absent] at two
      exact List.count_pos_iff.mp (by omega)
    have bad : [':', '[', ']'].any front.contains = true := by
      rw [List.any_cons, List.contains_iff_mem.mpr before, Bool.true_or]
    rw [hostOf?_append absent fun member => opening (List.mem_append_left _ member), if_pos bad,
      ite_self]
  · rw [hostOf?, Text.cutLast_of_not_mem colon]

/-- Joined with a port, the address is found again. -/
theorem hostOf?_hostPort (denotes : Denotes literal address)
    (decimal : ∀ c ∈ port, c.isDigit = true)
    : hostOf? (hostPort literal port) = some literal := by
  have opening : '[' ∉ literal := denotes.isPlain.not_mem (by decide) (by decide)
  have closing : ']' ∉ literal := denotes.isPlain.not_mem (by decide) (by decide)
  have outside {c : Char} (other : c.isDigit = false) : c ∉ port := by
    intro member
    cases other.symm.trans (decimal c member)
  have noColon : ':' ∉ port := outside (by decide)
  have noOpening : '[' ∉ port := outside (by decide)
  have noClosing : ']' ∉ port := outside (by decide)
  unfold hostPort
  split
  · have joined : '[' :: (literal ++ ']' :: ':' :: port)
        = ('[' :: literal ++ [']']) ++ ':' :: port := by
      simp
    rw [joined, hostOf?, Text.cutLast_append noColon]
    simp [noOpening, noClosing, Text.cut_append closing, opening]
  · rename_i colon
    rw [hostOf?_append noColon opening]
    simp [noOpening, noClosing, colon, opening, closing]

-----------------------------------------------------------------------------------------
-- Connections
-----------------------------------------------------------------------------------------

/-- An address that is written in some way is treated as its value demands, whatever effects it has
to look up names, to ask for the outlet and to connect.
-/
structure RoutedByValue (spelling : String) (address : IpAddress) : Prop where
  /-- Nothing is looked up to judge it. -/
  judged {m : Type → Type} [Monad m] (lookup : String → m (List IpAddress))
    : judge lookup spelling = pure (decide address.StaysLocal)
  /-- If it is local, it is connected to straight on, and nobody asks for the outlet. -/
  direct {m : Type → Type} [Monad m] [LawfulMonad m] {ε κ : Type}
    (lookup : String → m (List IpAddress)) (direct : Dialer m ε κ)
    (outlet : m (Except ε (Dialer m ε κ))) (network : String) (near : address.StaysLocal)
    : dial lookup direct outlet network spelling = direct network spelling
  /-- If it is not, it is connected to by the outlet, or fails if there is none. -/
  proxied {m : Type → Type} [Monad m] [LawfulMonad m] {ε κ : Type}
    (lookup : String → m (List IpAddress)) (direct : Dialer m ε κ)
    (outlet : m (Except ε (Dialer m ε κ))) (network : String) (far : ¬address.StaysLocal)
    : dial lookup direct outlet network spelling
      = outlet >>= fun ready =>
          match ready with
          | .error cause => pure (.error cause)
          | .ok dialer => dialer network spelling

theorem judge_eq_of_hostOf {m : Type → Type} [Monad m] (lookup : String → m (List IpAddress))
    {spelling : String} (host : hostOf spelling = literal) (denotes : Denotes literal address)
    : judge lookup spelling = pure (decide address.StaysLocal) := by
  have read : ofChars? (hostOf spelling) = some address := by
    rw [host]
    exact ofChars?_eq_some_iff.mpr denotes
  have same : address.isLocal = decide address.StaysLocal := by
    rw [Bool.eq_iff_iff, isLocal_iff, decide_eq_true_iff]
  simp only [judge, read, same]

/-- An address that is judged without effects has its way decided without any. -/
theorem dial_eq_of_judged {m : Type → Type} [Monad m] [LawfulMonad m] {ε κ : Type}
    {lookup : String → m (List IpAddress)} {spelling : String} {verdict : Bool}
    (judged : judge lookup spelling = pure verdict) (direct : Dialer m ε κ)
    (outlet : m (Except ε (Dialer m ε κ))) (network : String)
    : dial lookup direct outlet network spelling
      = if verdict then direct network spelling
        else outlet >>= fun ready =>
          match ready with
          | .error cause => pure (.error cause)
          | .ok dialer => dialer network spelling := by
  rw [dial, judged]
  exact pure_bind _ _

theorem routedByValue_of_hostOf {spelling : String} (host : hostOf spelling = literal)
    (denotes : Denotes literal address)
    : RoutedByValue spelling address where
  judged lookup := judge_eq_of_hostOf lookup host denotes
  direct lookup direct outlet network near := by
    have judged := judge_eq_of_hostOf lookup host denotes
    rw [dial_eq_of_judged judged direct outlet network, if_pos (decide_eq_true near)]
  proxied lookup direct outlet network far := by
    have judged := judge_eq_of_hostOf lookup host denotes
    have verdict : ¬decide address.StaysLocal = true := by rwa [decide_eq_true_iff]
    rw [dial_eq_of_judged judged direct outlet network, if_neg verdict]

/-- The texts that are read as addresses are those that denote one, and each of them is routed by
the address that it denotes, alone as well as with a port. A short address that is written the long
way is still the same address.
-/
theorem literals_routed_by_value (address : IpAddress) (literal port : List Char)
    (decimal : ∀ c ∈ port, c.isDigit = true)
    : (ofChars? literal = some address ↔ Denotes literal address)
      ∧ (Denotes literal address →
          RoutedByValue (String.ofList literal) address
          ∧ RoutedByValue (String.ofList (hostPort literal port)) address)
      ∧ ∀ a b c d marker,
          WritesBytes literal a b c d
          → WritesGroup marker 0xffff
          → Denotes literal (ofBytes a b c d)
            ∧ Denotes (marked marker literal) (ofBytes a b c d) := by
  refine ⟨ofChars?_eq_some_iff, ?_, ?_⟩
  · intro denotes
    constructor
    · apply routedByValue_of_hostOf _ denotes
      rw [hostOf, String.toList_ofList, hostOf?_literal denotes, Option.getD_none]
    · apply routedByValue_of_hostOf _ denotes
      rw [hostOf, String.toList_ofList, hostOf?_hostPort denotes decimal, Option.getD_some]
  · intro a b c d marker bytes marks
    exact ⟨.short bytes, bytes.denotes_marked marks⟩

/-- An address within a private network, the short way and the long way with a port. -/
theorem literals_routed_by_value_private
    : RoutedByValue "10.1.2.3" (ofBytes 10 1 2 3)
      ∧ RoutedByValue "10.1.2.3:443" (ofBytes 10 1 2 3)
      ∧ RoutedByValue "[::FfFf:10.1.2.3]:443" (ofBytes 10 1 2 3)
      ∧ (ofBytes 10 1 2 3).StaysLocal := by
  have bytes : WritesBytes "10.1.2.3".toList 10 1 2 3 := shortBytes?_eq_some_iff.mp (by decide)
  have marks : WritesGroup "FfFf".toList 0xffff := group?_eq_some_iff.mp (by decide)
  have port : ∀ c ∈ "443".toList, c.isDigit = true := List.all_eq_true.mp rfl
  obtain ⟨_, short, both⟩ := literals_routed_by_value (ofBytes 10 1 2 3) "10.1.2.3".toList _ port
  obtain ⟨denotes, long⟩ := both 10 1 2 3 _ bytes marks
  obtain ⟨_, routed, _⟩ := literals_routed_by_value (ofBytes 10 1 2 3) _ _ port
  have near := staysLocal_ofBytes_iff (by decide : 10 < 256) (by decide : 1 < 256)
    (by decide : 2 < 256) (by decide : 3 < 256)
  exact ⟨(short denotes).1, (short denotes).2, (routed long).2, near.mpr (.inr (.inl rfl))⟩

end

end TapeMachine.Network
