import RegisterPlane.Proofs.Text.Character
import RegisterPlane.Text.Blank
import RegisterPlane.Text.Hex

namespace RegisterPlane.Text

theorem toList_loop (bytes : ByteArray) (i : Nat) (taken : List UInt8) :
    ByteArray.toList.loop bytes i taken = taken.reverse ++ bytes.data.toList.drop i := by
  induction left : bytes.size - i generalizing i taken with
  | zero =>
      have size : bytes.data.toList.length = bytes.size := Array.length_toList
      rw [ByteArray.toList.loop, if_neg (by omega), List.drop_of_length_le (by omega), List.append_nil]
  | succ left ih =>
      have size : bytes.data.toList.length = bytes.size := Array.length_toList
      have inside : i < bytes.data.size := by
        change i < bytes.size
        omega
      have here : bytes.get! i = bytes.data[i] := getElem!_pos bytes.data i inside
      rw [ByteArray.toList.loop, if_pos (by omega), ih _ _ (by omega), List.reverse_cons,
        List.append_assoc, List.singleton_append, here,
        List.drop_eq_getElem_cons (show i < bytes.data.toList.length by omega)]
      rfl

theorem toList_byteArray (bytes : ByteArray) : bytes.toList = bytes.data.toList :=
  toList_loop bytes 0 []

theorem utf8_ascii {cs : List Char} (ascii : ∀ c ∈ cs, c.toNat < 128) :
    (String.ofList cs).toUTF8.toList = cs.map fun c => UInt8.ofNat c.toNat := by
  have encoded : (String.ofList cs).toUTF8 = cs.utf8Encode := String.toByteArray_ofList
  rw [encoded, toList_byteArray, List.utf8Encode, List.toList_data_toByteArray]
  induction cs with
  | nil => rfl
  | cons c rest ih =>
      have small : c.val.toNat ≤ 127 := by
        have first := ascii c List.mem_cons_self
        change c.toNat ≤ 127
        omega
      rw [List.flatMap_cons, List.map_cons, ih (fun x member => ascii x (List.mem_cons_of_mem c member))
        String.toByteArray_ofList, String.utf8EncodeChar, if_pos small]
      rfl

namespace Hex

theorem hexDigit_toNat (n : Nat) :
    (hexDigit n).toNat = if n % 16 < 10 then 48 + n % 16 else 87 + n % 16 := by
  unfold hexDigit
  split
  · exact toNat_ofNat_of_lt (show 48 + n % 16 < 0xd800 by omega)
  · have letter := toNat_ofNat_of_lt (show 97 + (n % 16 - 10) < 0xd800 by omega)
    refine letter.trans ?_
    omega

theorem digitOfByte_hexDigit (n : Nat) :
    digitOfByte? (UInt8.ofNat (hexDigit n).toNat) = some (n % 16) := by
  have byte : (UInt8.ofNat (hexDigit n).toNat).toNat = (hexDigit n).toNat := by
    rw [UInt8.toNat_ofNat']
    apply Nat.mod_eq_of_lt
    rw [hexDigit_toNat]
    split <;> omega
  unfold digitOfByte?
  rw [byte, hexDigit_toNat]
  dsimp only
  by_cases decimal : n % 16 < 10
  · rw [if_pos decimal, if_pos (by omega)]
    congr 1
    omega
  · rw [if_neg decimal, if_neg (by omega), if_pos (by omega)]
    congr 1
    omega

theorem ascii_of_mem_encode {bytes : List UInt8} {c : Char} (member : c ∈ encode bytes) :
    c.toNat < 128 ∧ isBlank c = false := by
  obtain ⟨b, -, digit⟩ := List.mem_flatMap.mp member
  have value : ∃ n, c = hexDigit n := by
    rcases List.mem_cons.mp digit with high | low
    · exact ⟨_, high⟩
    · exact ⟨_, List.mem_singleton.mp low⟩
  obtain ⟨n, rfl⟩ := value
  have code := hexDigit_toNat n
  constructor
  · split at code <;> omega
  · simp [isBlank]
    split at code <;> omega

theorem decodePairs_encode (bytes : List UInt8) (position : Nat) :
    decodePairs position ((encode bytes).map fun c => UInt8.ofNat c.toNat) = .ok bytes := by
  induction bytes generalizing position with
  | nil => rfl
  | cons b rest ih =>
      have octet := b.toNat_lt
      have value : UInt8.ofNat (b.toNat / 16 % 16 * 16 + b.toNat % 16) = b := by
        rw [show b.toNat / 16 % 16 * 16 + b.toNat % 16 = b.toNat by omega]
        exact UInt8.ofNat_toNat
      change decodePairs position (UInt8.ofNat (hexDigit (b.toNat / 16)).toNat ::
        UInt8.ofNat (hexDigit b.toNat).toNat ::
          (encode rest).map fun c => UInt8.ofNat c.toNat) = _
      rw [decodePairs, digitOfByte_hexDigit, digitOfByte_hexDigit]
      dsimp only
      rw [ih, value]
      rfl

theorem length_encode (bytes : List UInt8) : (encode bytes).length = 2 * bytes.length := by
  induction bytes with
  | nil => rfl
  | cons b rest ih =>
      change (encode rest).length + 1 + 1 = 2 * (rest.length + 1)
      omega

theorem decode_encode (bytes : List UInt8) : decode (String.ofList (encode bytes)) = .ok bytes := by
  unfold decode
  rw [utf8_ascii fun c member => (ascii_of_mem_encode member).1]
  dsimp only
  rw [List.length_map, length_encode, if_neg (by omega), decodePairs_encode]

end Hex

end RegisterPlane.Text
