import ChatAutomation.Json.Reader
import Mathlib.Data.List.Basic

/-!
# Documents in ASCII

The encoding of a document shows in its first bytes. Those of a text are the bytes of its characters,
`toList_toUTF8`, so a document that begins with two ASCII characters other than NUL is read as it stands:
`decode_eq_self`.
-/
namespace ChatAutomation.Json
namespace Encoding

theorem toList_loop_eq (bs : ByteArray) (i : Nat) (r : List UInt8) :
    ByteArray.toList.loop bs i r = r.reverse ++ bs.data.toList.drop i := by
  fun_induction ByteArray.toList.loop bs i r with
  | case1 i r h ih =>
    have hi : i < bs.data.toList.length := by simpa using h
    have hget : bs.get! i = bs.data.toList[i] := by
      rw [ByteArray.get!, getElem!_pos bs.data i (by simpa using h), Array.getElem_toList]
    rw [ih, List.drop_eq_getElem_cons hi, hget, List.reverse_cons, List.append_assoc]
    rfl
  | case2 i r h =>
    have hi : bs.data.toList.length ≤ i := by simpa using h
    rw [List.drop_eq_nil_of_le hi, List.append_nil]

theorem toList_toUTF8 (s : String) : s.toUTF8.toList = s.toList.flatMap String.utf8EncodeChar := by
  have hbytes : s.toUTF8 = (s.toList.flatMap String.utf8EncodeChar).toByteArray := by
    rw [← List.utf8Encode, ← String.toByteArray_ofList, String.ofList_toList]
    rfl
  rw [ByteArray.toList, toList_loop_eq, hbytes, List.data_toByteArray]
  rfl

theorem utf8EncodeChar_of_ascii {c : Char} (h : c.toNat < 128) :
    String.utf8EncodeChar c = [UInt8.ofNat c.toNat] :=
  if_pos (Nat.le_of_lt_succ h)

theorem ofBytes_of_ne_zero {a b : UInt8} (ha : a ≠ 0) (hb : b ≠ 0) (bs : List UInt8) :
    ofBytes (a :: b :: bs) = utf8 := by
  unfold ofBytes
  split <;> simp_all

/-- A document that begins with two ASCII characters other than NUL is read as it stands. -/
theorem decode_eq_self {s : String} {c d : Char} {cs : List Char} (hs : s.toList = c :: d :: cs)
    (hc : 0 < c.toNat ∧ c.toNat < 128) (hd : 0 < d.toNat ∧ d.toNat < 128) : decode s = .ok s := by
  have hne {n : Nat} (h : 0 < n ∧ n < 128) : UInt8.ofNat n ≠ 0 := by
    intro h0
    have h0 : n % 256 = 0 := congrArg UInt8.toNat h0
    omega
  have hbytes : ofBytes s.toUTF8.toList = utf8 := by
    rw [toList_toUTF8, hs, List.flatMap_cons, List.flatMap_cons, utf8EncodeChar_of_ascii hc.2,
      utf8EncodeChar_of_ascii hd.2]
    exact ofBytes_of_ne_zero (hne hc) (hne hd) _
  unfold decode
  split
  · rename_i heq
    rw [hs] at heq
    obtain ⟨rfl, -⟩ := List.cons.inj heq
    exact absurd hc.2 (by decide)
  · dsimp only
    rw [hbytes]

end Encoding

/-- What begins like an object is read as the value that its text stands for. -/
theorem parseBody_of_parseValue {s : String} {v : Value}
    (hs : ∃ cs, s.toList = '\x7b' :: '"' :: cs) (h : parseValue s = .ok v) : parseBody s = .ok v := by
  obtain ⟨cs, hs⟩ := hs
  rw [parseBody, Encoding.decode_eq_self hs (by decide) (by decide)]
  dsimp only
  rw [h]
  rfl

end ChatAutomation.Json
