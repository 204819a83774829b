import Shop.Text.Base64

/-!
# Base 64 read back

What was written without filling is read back as the bytes that it was written from.  Every group of
signs holds the bytes that it was made from, so this follows group by group.
-/

namespace Shop

theorem bytes_toList (bytes : ByteArray) : bytes.toList = bytes.data.toList := by
  have walked (i : Nat) (read : List UInt8) : ByteArray.toList.loop bytes i read =
      read.reverse ++ bytes.data.toList.drop i := by
    fun_induction ByteArray.toList.loop bytes i read with
    | case1 i read inside inductionHypothesis =>
      have here : bytes.data.toList.drop i = bytes.get! i :: bytes.data.toList.drop (i + 1) := by
        rw [List.drop_eq_getElem_cons inside]
        congr 1
        exact (getElem!_pos bytes.data i inside).symm
      rw [inductionHypothesis, here, List.reverse_cons, List.append_assoc, List.singleton_append]
    | case2 i read outside =>
      rw [List.drop_of_length_le (Nat.not_lt.mp outside), List.append_nil]
  exact walked 0 []

theorem bytes_foldl_push (bytes : List UInt8) (out : ByteArray) :
    (bytes.foldl ByteArray.push out).data.toList = out.data.toList ++ bytes := by
  induction bytes generalizing out with
  | nil => exact (List.append_nil _).symm
  | cons byte bytes inductionHypothesis =>
    rw [List.foldl_cons, inductionHypothesis, ByteArray.data_push, Array.toList_push,
      List.append_assoc, List.singleton_append]

namespace Base64

/-! ## Signs -/

theorem value?_sign : ∀ n < 64, value? (sign n) = some n := by
  decide +kernel

/-- No sign is taken for filling. -/
theorem sign_ne_filling : ∀ n < 64, sign n ≠ '=' := by
  decide +kernel

/-- The values of the signs of bytes. -/
def sextets : List UInt8 → List Nat
  | [] => []
  | [x] => [x.toNat / 4, 16 * (x.toNat % 4)]
  | [x, y] => [x.toNat / 4, 16 * (x.toNat % 4) + y.toNat / 16, 4 * (y.toNat % 16)]
  | x :: y :: z :: rest =>
    [x.toNat / 4, 16 * (x.toNat % 4) + y.toNat / 16, 4 * (y.toNat % 16) + z.toNat / 64,
      z.toNat % 64] ++ sextets rest

theorem encodeBytes_eq_map (bytes : List UInt8) : encodeBytes bytes = (sextets bytes).map sign := by
  induction bytes using encodeBytes.induct with
  | case4 x y z rest inductionHypothesis =>
    rw [encodeBytes, sextets, List.map_append, inductionHypothesis]
    rfl
  | _ => rfl

theorem sextets_lt (bytes : List UInt8) : ∀ n ∈ sextets bytes, n < 64 := by
  induction bytes using sextets.induct with
  | case1 => exact List.forall_mem_nil _
  | case2 x =>
    have bound := x.toNat_lt
    simp only [sextets, List.forall_mem_cons]
    exact ⟨by omega, by omega, List.forall_mem_nil _⟩
  | case3 x y =>
    have bound := x.toNat_lt
    have bound' := y.toNat_lt
    simp only [sextets, List.forall_mem_cons]
    exact ⟨by omega, by omega, by omega, List.forall_mem_nil _⟩
  | case4 x y z rest inductionHypothesis =>
    have bound := x.toNat_lt
    have bound' := y.toNat_lt
    have bound'' := z.toNat_lt
    simp only [sextets, List.cons_append, List.nil_append, List.forall_mem_cons]
    exact ⟨by omega, by omega, by omega, by omega, inductionHypothesis⟩

/-- What holds of the sixty-four signs holds of every character that is written. -/
theorem forall_encodeBytes {P : Char → Prop} (signs : ∀ n < 64, P (sign n)) (bytes : List UInt8) :
    ∀ c ∈ encodeBytes bytes, P c := by
  rw [encodeBytes_eq_map]
  exact List.forall_mem_map.mpr fun n member => signs n (sextets_lt bytes n member)

theorem length_encodeBytes (bytes : List UInt8) :
    (encodeBytes bytes).length = (4 * bytes.length + 2) / 3 := by
  induction bytes using encodeBytes.induct with
  | case4 x y z rest inductionHypothesis =>
    simp only [encodeBytes, List.length_cons, inductionHypothesis]
    omega
  | _ => simp [encodeBytes]

/-! ## Groups -/

theorem values?_signs {ns : List Nat} (small : ∀ n ∈ ns, n < 64) :
    values? (ns.map sign) = some ns := by
  induction ns with
  | nil => rfl
  | cons n ns inductionHypothesis =>
    rcases List.forall_mem_cons.mp small with ⟨first, rest⟩
    have read := inductionHypothesis rest
    unfold values? at *
    rw [List.map_cons, List.mapM_cons, value?_sign n first, read]
    rfl

/-- Signs without filling are all read. -/
theorem lastGroup_signs {cs : List Char} (unfilled : ∀ c ∈ cs, c ≠ '=') :
    lastGroup false cs = some cs := by
  unfold lastGroup
  split
  · exact absurd rfl (unfilled '=' (by simp))
  · exact absurd rfl (unfilled '=' (by simp))
  · rfl
  · rfl

/-- A group holds the bytes that it was made from. -/
theorem groupBytes_sextets {bytes : List UInt8} (some : bytes ≠ []) (group : bytes.length ≤ 3) :
    groupBytes (sextets bytes) = .some bytes := by
  have whole (x : UInt8) : byte x.toNat = x := UInt8.ofNat_toNat
  have first (x : UInt8) {n : Nat} (small : n < 16) :
      4 * (x.toNat / 4) + (16 * (x.toNat % 4) + n) / 16 = x.toNat := by omega
  have second (m : Nat) (y : UInt8) {n : Nat} (small : n < 4) :
      16 * ((16 * m + y.toNat / 16) % 16) + (4 * (y.toNat % 16) + n) / 4 = y.toNat := by
    have bound := y.toNat_lt
    omega
  have third (m : Nat) (z : UInt8) :
      64 * ((4 * m + z.toNat / 64) % 4) + z.toNat % 64 = z.toNat := by
    have bound := z.toNat_lt
    omega
  have upper (y : UInt8) : y.toNat / 16 < 16 := by
    have bound := y.toNat_lt
    omega
  have top (z : UInt8) : z.toNat / 64 < 4 := by
    have bound := z.toNat_lt
    omega
  match bytes, some, group with
  | [x], _, _ =>
    have unused : 16 * (x.toNat % 4) % 16 = 0 := by omega
    have read := first x (by decide : 0 < 16)
    rw [Nat.add_zero] at read
    simp only [sextets, groupBytes, unused, read, whole, if_true]
  | [x, y], _, _ =>
    have unused : 4 * (y.toNat % 16) % 4 = 0 := by omega
    have read := second (x.toNat % 4) y (by decide : 0 < 4)
    rw [Nat.add_zero] at read
    simp only [sextets, groupBytes, unused, first x (upper y), read, whole, if_true]
  | [x, y, z], _, _ =>
    simp only [sextets, List.append_nil, groupBytes, first x (upper y), second _ y (top z), third,
      whole]

/-! ## Reading what was written -/

/-- The last group is read as its bytes. -/
theorem decodeFrom_last {ns : List Nat} (small : ∀ n ∈ ns, n < 64) (some : ns ≠ [])
    (group : ns.length ≤ 4) {bytes : List UInt8} (read : groupBytes ns = .some bytes)
    (out : ByteArray) :
    decodeFrom false out (ns.map sign) = .some (bytes.foldl ByteArray.push out) := by
  have unfilled : ∀ c ∈ ns.map sign, c ≠ '=' :=
    List.forall_mem_map.mpr fun n member => sign_ne_filling n (small n member)
  have decoded : (do
      let bytes ← groupBytes (← values? (← lastGroup false (ns.map sign)))
      return bytes.foldl ByteArray.push out) = .some (bytes.foldl ByteArray.push out) := by
    simp only [lastGroup_signs unfilled, values?_signs small, read, Option.pure_def,
      Option.bind_eq_bind, Option.bind_some]
  match ns, some, group with
  | [_], _, _ | [_, _], _, _ | [_, _, _], _, _ | [_, _, _, _], _, _ => exact decoded

/-- Any other group is read before those behind it. -/
theorem decodeFrom_group {a b c d e : Nat} {rest : List Nat} (small : ∀ n ∈ [a, b, c, d], n < 64)
    {bytes : List UInt8} (read : groupBytes [a, b, c, d] = some bytes) (out : ByteArray) :
    decodeFrom false out ((a :: b :: c :: d :: e :: rest).map sign) =
      decodeFrom false (bytes.foldl ByteArray.push out) ((e :: rest).map sign) := by
  have values := values?_signs small
  simp only [List.map_cons, List.map_nil] at values
  simp only [List.map_cons, decodeFrom, values, read, Option.bind_eq_bind, Option.bind_some]

theorem decodeFrom_sextets (bytes : List UInt8) (out : ByteArray) :
    decodeFrom false out ((sextets bytes).map sign) = some (bytes.foldl ByteArray.push out) := by
  have last {group : List UInt8} (some : group ≠ []) (short : group.length ≤ 3)
      (values : sextets group ≠ []) (out : ByteArray) (length : (sextets group).length ≤ 4) :
      decodeFrom false out ((sextets group).map sign) = .some (group.foldl ByteArray.push out) :=
    decodeFrom_last (sextets_lt group) values length (groupBytes_sextets some short) out
  induction bytes using sextets.induct generalizing out with
  | case1 => rfl
  | case2 x => exact last (by simp) (by simp) (by simp [sextets]) out (by simp [sextets])
  | case3 x y => exact last (by simp) (by simp) (by simp [sextets]) out (by simp [sextets])
  | case4 x y z rest inductionHypothesis =>
    have small := sextets_lt [x, y, z]
    have read : groupBytes (sextets [x, y, z]) = some [x, y, z] :=
      groupBytes_sextets (by simp) (by simp)
    cases rest with
    | nil => exact last (by simp) (by simp) (by simp [sextets]) out (by simp [sextets])
    | cons w rest =>
      have more : ∃ n ns, sextets (w :: rest) = n :: ns := by
        match rest with
        | [] | [_] | _ :: _ :: _ => exact ⟨_, _, rfl⟩
      rcases more with ⟨n, ns, more⟩
      rw [more] at inductionHypothesis
      rw [sextets, more]
      exact (decodeFrom_group small read out).trans (inductionHypothesis _)

/-- Bytes are read back from the text that was written. -/
theorem decodeUnpadded_encodeUnpadded (bytes : ByteArray) :
    decodeUnpadded (encodeUnpadded bytes) = some bytes := by
  rw [decodeUnpadded, encodeUnpadded, String.toList_ofList, encodeBytes_eq_map, decodeFrom_sextets]
  refine congrArg some (ByteArray.ext (Array.toList_inj.mp ?_))
  rw [bytes_foldl_push, bytes_toList]
  rfl

end Base64
end Shop
