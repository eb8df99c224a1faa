import Mathlib.Data.List.Basic

namespace Base64

def digits : List UInt8 → List Nat
  | a :: b :: c :: rest =>
    a.toNat / 4 :: (a.toNat % 4 * 16 + b.toNat / 16) :: (b.toNat % 16 * 4 + c.toNat / 64) :: c.toNat % 64 :: digits rest
  | [a, b] => [a.toNat / 4, a.toNat % 4 * 16 + b.toNat / 16, b.toNat % 16 * 4]
  | [a] => [a.toNat / 4, a.toNat % 4 * 16]
  | [] => []

def bytes : List Nat → List UInt8
  | a :: b :: c :: d :: rest =>
    UInt8.ofNat (a * 4 + b / 16) :: UInt8.ofNat (b % 16 * 16 + c / 4) :: UInt8.ofNat (c % 4 * 64 + d) :: bytes rest
  | [a, b, c] => [UInt8.ofNat (a * 4 + b / 16), UInt8.ofNat (b % 16 * 16 + c / 4)]
  | [a, b] => [UInt8.ofNat (a * 4 + b / 16)]
  | _ => []

def charOf (digit : Nat) : Char :=
  Char.ofNat (if digit < 26 then 65 + digit else if digit < 52 then 71 + digit else if digit < 62 then digit - 4
    else if digit = 62 then 43 else 47)

def valueOf (c : Char) : Option Nat :=
  let code := c.toNat
  if 65 ≤ code ∧ code ≤ 90 then some (code - 65)
  else if 97 ≤ code ∧ code ≤ 122 then some (code - 71)
  else if 48 ≤ code ∧ code ≤ 57 then some (code + 4)
  else if code = 43 ∨ code = 45 then some 62
  else if code = 47 ∨ code = 95 then some 63
  else none

def padding (length : Nat) : List Char := List.replicate ((3 - length % 3) % 3) '='

def encode (data : List UInt8) : List Char := (digits data).map charOf ++ padding data.length

def decode (text : List Char) : List UInt8 := bytes (text.filterMap valueOf)

theorem valueOf_charOf {digit : Nat} (small : digit < 64) : valueOf (charOf digit) = some digit := by
  revert digit
  decide

theorem digits_small (data : List UInt8) : ∀ digit ∈ digits data, digit < 64 := by
  induction data using digits.induct with
  | case1 a b c rest ih =>
    have first := a.toNat_lt
    have second := b.toNat_lt
    have third := c.toNat_lt
    simp only [digits, List.forall_mem_cons]
    exact ⟨by omega, by omega, by omega, by omega, ih⟩
  | case2 a b =>
    have first := a.toNat_lt
    have second := b.toNat_lt
    simp only [digits, List.forall_mem_cons]
    exact ⟨by omega, by omega, by omega, List.forall_mem_nil _⟩
  | case3 a =>
    have first := a.toNat_lt
    simp only [digits, List.forall_mem_cons]
    exact ⟨by omega, by omega, List.forall_mem_nil _⟩
  | case4 => exact List.forall_mem_nil _

theorem byte_eq {n : Nat} {byte : UInt8} (same : n = byte.toNat) : UInt8.ofNat n = byte := by
  rw [same, UInt8.ofNat_toNat]

theorem bytes_digits (data : List UInt8) : bytes (digits data) = data := by
  induction data using digits.induct with
  | case1 a b c rest ih =>
    have first := a.toNat_lt
    have second := b.toNat_lt
    have third := c.toNat_lt
    simp only [digits, bytes, ih]
    rw [@byte_eq _ a (by omega), @byte_eq _ b (by omega), @byte_eq _ c (by omega)]
  | case2 a b =>
    have first := a.toNat_lt
    have second := b.toNat_lt
    simp only [digits, bytes]
    rw [@byte_eq _ a (by omega), @byte_eq _ b (by omega)]
  | case3 a =>
    have first := a.toNat_lt
    simp only [digits, bytes]
    rw [@byte_eq _ a (by omega)]
  | case4 => rfl

theorem filterMap_charOf {items : List Nat} (small : ∀ digit ∈ items, digit < 64) :
    (items.map charOf).filterMap valueOf = items := by
  induction items with
  | nil => rfl
  | cons digit rest ih =>
    have kept := ih fun other member => small other (List.mem_cons_of_mem _ member)
    rw [List.map_cons, List.filterMap_cons_some (valueOf_charOf (small digit List.mem_cons_self)), kept]

theorem filterMap_padding (length : Nat) : (padding length).filterMap valueOf = [] := by
  rw [List.filterMap_eq_nil_iff]
  intro c member
  rw [List.eq_of_mem_replicate member]
  rfl

theorem decode_encode (data : List UInt8) : decode (encode data) = data := by
  rw [decode, encode, List.filterMap_append, filterMap_padding, List.append_nil, filterMap_charOf (digits_small data),
    bytes_digits]

theorem encode_injective {data data' : List UInt8} (same : encode data = encode data') : data = data' := by
  rw [← decode_encode data, same, decode_encode]

theorem charOf_ascii {digit : Nat} (small : digit < 64) : (charOf digit).toNat < 128 := by
  revert digit
  decide

theorem encode_ascii (data : List UInt8) : ∀ c ∈ encode data, c.toNat < 128 := by
  intro c member
  rcases List.mem_append.mp member with inner | filled
  · obtain ⟨digit, inside, rfl⟩ := List.mem_map.mp inner
    exact charOf_ascii (digits_small data digit inside)
  · rw [List.eq_of_mem_replicate filled]
    decide

theorem digits_bound (data : List UInt8) : 3 * (digits data).length ≤ 4 * data.length + 2 := by
  induction data using digits.induct with
  | case1 a b c rest ih =>
    simp only [digits, List.length_cons]
    omega
  | case2 a b =>
    simp only [digits, List.length_cons, List.length_nil]
    omega
  | case3 a =>
    simp only [digits, List.length_cons, List.length_nil]
    omega
  | case4 => exact Nat.zero_le _

theorem encode_bound (data : List UInt8) : 3 * (encode data).length ≤ 4 * data.length + 8 := by
  have inner := digits_bound data
  rw [encode, List.length_append, List.length_map, padding, List.length_replicate]
  omega

end Base64
