import Mathlib.Data.String.Basic
import Shop.Password.Encoded
import Shop.Proofs.Text.Base64
import Shop.Proofs.Text.Splitting

/-!
# Encoded hashes read back

The text that is kept of a password is read back as the hash that it was made from, for every salt of
a size that may be kept.  So a password is compared with the kept one by the hashes of both, and
reading never fails.
-/

namespace Shop

/-! ## The size of hashes -/

theorem size_pushWord (count : Nat) (out : ByteArray) (word : UInt64) :
    (pushWord count out word).size = out.size + count := by
  unfold pushWord
  induction count with
  | zero => rfl
  | succ count inductionHypothesis =>
    rw [Nat.fold_succ, ByteArray.size_push, inductionHypothesis]
    omega

theorem size_foldl_pushWord (words : List UInt64) (out : ByteArray) :
    (words.foldl (pushWord 8) out).size = out.size + 8 * words.length := by
  induction words generalizing out with
  | nil => rfl
  | cons word words inductionHypothesis =>
    rw [List.foldl_cons, inductionHypothesis, size_pushWord, List.length_cons]
    omega

theorem Blake2b.size_hash {length : Nat} (short : length ≤ 64) (message : ByteArray) :
    (hash length message).size = length := by
  unfold hash
  extract_lets chain bytes
  have whole : bytes.size = 64 := by
    unfold bytes
    rw [← Vector.foldl_toList, size_foldl_pushWord, Vector.length_toList]
    rfl
  rw [ByteArray.size_extract, whole]
  omega

theorem Argon2.size_hash {s : Recipe} (short : s.length ≤ 64) (password salt : ByteArray) :
    (hash s password salt).size = s.length := by
  unfold hash
  extract_lets memory last sum
  rw [digest, if_pos short]
  exact Blake2b.size_hash short _

namespace EncodedHash

/-! ## Fields -/

variable {bytes : ByteArray}

theorem utf8ByteSize_encodeUnpadded (bytes : ByteArray) :
    (Base64.encodeUnpadded bytes).utf8ByteSize = (4 * bytes.size + 2) / 3 := by
  have narrow : ∀ c ∈ Base64.encodeBytes bytes.toList, c.utf8Size = 1 :=
    Base64.forall_encodeBytes (P := fun c => c.utf8Size = 1) (by decide +kernel) _
  have each (cs : List Char) (narrow : ∀ c ∈ cs, c.utf8Size = 1) : String.utf8Len cs = cs.length := by
    induction cs with
    | nil => rfl
    | cons c cs inductionHypothesis =>
      rcases List.forall_mem_cons.mp narrow with ⟨first, rest⟩
      rw [String.utf8Len_cons, inductionHypothesis rest, first, List.length_cons]
  have length : bytes.toList.length = bytes.size := by
    rw [bytes_toList]
    rfl
  rw [Base64.encodeUnpadded, String.utf8ByteSize_ofList, each _ narrow, Base64.length_encodeBytes,
    length]

theorem readBytes_encodeUnpadded {limit : Nat} (fits : bytes.size ≤ limit) :
    readBytes limit (Base64.encodeUnpadded bytes) = .ok bytes := by
  rw [readBytes, utf8ByteSize_encodeUnpadded, if_neg (by omega),
    Base64.decodeUnpadded_encodeUnpadded]

theorem readHash_encodeUnpadded (long : minHashBytes ≤ bytes.size)
    (short : bytes.size ≤ maxHashBytes) :
    readHash (Base64.encodeUnpadded bytes) = .ok bytes := by
  unfold readHash
  rw [readBytes_encodeUnpadded short]
  exact if_neg (Nat.not_lt.mpr long)

theorem readValue_encodeUnpadded (short : bytes.size ≤ 48) :
    readValue (Base64.encodeUnpadded bytes) = .ok (Base64.encodeUnpadded bytes) := by
  have plain : ∀ c ∈ Base64.encodeBytes bytes.toList, isValueChar c = true :=
    Base64.forall_encodeBytes (P := fun c => isValueChar c = true) (by decide +kernel) _
  have none : (Base64.encodeUnpadded bytes).toList.find? (!isValueChar ·) = none := by
    rw [Base64.encodeUnpadded, String.toList_ofList, List.find?_eq_none]
    intro c member
    simp [plain c member]
  rw [readValue, utf8ByteSize_encodeUnpadded, if_neg (by omega), none]

theorem readSalt_encodeUnpadded (long : 3 ≤ bytes.size) (short : bytes.size ≤ 48) :
    readSalt (Base64.encodeUnpadded bytes) = .ok (Base64.encodeUnpadded bytes) := by
  rw [readSalt, utf8ByteSize_encodeUnpadded, if_neg (by omega), readValue_encodeUnpadded short]
  rfl

/-- Bytes that can be kept as a salt. -/
def FitsSalt (salt : ByteArray) : Prop := minSaltBytes ≤ salt.size ∧ salt.size ≤ 48

instance : DecidablePred FitsSalt :=
  fun salt => inferInstanceAs (Decidable (minSaltBytes ≤ salt.size ∧ salt.size ≤ 48))

theorem saltBytes_encodeUnpadded {salt : ByteArray} (fits : FitsSalt salt) :
    saltBytes (Base64.encodeUnpadded salt) = .ok salt := by
  have short : salt.size ≤ maxHashBytes := fits.2.trans (by decide)
  unfold saltBytes
  rw [readBytes_encodeUnpadded short]
  exact if_neg (Nat.not_lt.mpr fits.1)

/-- What the text that is kept of a password says: the standard recipe, a salt and a hash. -/
def kept (salt : String) (hash : ByteArray) : EncodedHash where
  variant := "argon2id"
  version := some 19
  costs := [("m", "19456"), ("t", "2"), ("p", "1")]
  salt := some salt
  hash := some hash

theorem readCost_pair {field name value : String} (parts : field.splitOn "=" = [name, value])
    (named : readName name = .ok name) (valued : readValue value = .ok value) :
    readCost field = .ok (name, value) := by
  rw [readCost, parts]
  simp only [named, valued, Except.mapError, bind, Except.bind]
  rfl

theorem readCosts_kept :
    readCosts "m=19456,t=2,p=1" = some (.ok [("m", "19456"), ("t", "2"), ("p", "1")]) := by
  have fields : "m=19456,t=2,p=1".splitOn "," = ["m=19456", "t=2", "p=1"] :=
    (Text.splitOn_singleton ',' _).trans (by decide +kernel)
  have memory : readCost "m=19456" = .ok ("m", "19456") :=
    readCost_pair ((Text.splitOn_singleton '=' _).trans (by decide +kernel)) (by decide +kernel)
      (by decide +kernel)
  have passes : readCost "t=2" = .ok ("t", "2") :=
    readCost_pair ((Text.splitOn_singleton '=' _).trans (by decide +kernel)) (by decide +kernel)
      (by decide +kernel)
  have lanes : readCost "p=1" = .ok ("p", "1") :=
    readCost_pair ((Text.splitOn_singleton '=' _).trans (by decide +kernel)) (by decide +kernel)
      (by decide +kernel)
  have holds : (!"m=19456,t=2,p=1".toList.contains '=') = false := by decide +kernel
  have short : ¬ 127 < "m=19456,t=2,p=1".utf8ByteSize := by decide +kernel
  rw [readCosts, holds, if_neg Bool.false_ne_true, if_neg short, fields]
  simp only [List.mapM_cons, List.mapM_nil, memory, passes, lanes]
  rfl

theorem read_fields {text salt hash : String} {bytes : ByteArray}
    (fields : text.splitOn "$" = ["", "argon2id", "v=19", "m=19456,t=2,p=1", salt, hash])
    (salted : readSalt salt = .ok salt) (hashed : readHash hash = .ok bytes) :
    read text = .ok (kept salt bytes) := by
  have variant : readName "argon2id" = .ok "argon2id" := by decide +kernel
  have version : readVersion "v=19" = some (.ok 19) := by decide +kernel
  rw [read, fields]
  simp only [variant, version, readCosts_kept, salted, hashed, takeIf, bind, Except.bind, Except.map]
  rfl

theorem recipe_kept (salt : String) (hash : ByteArray) (length : Nat) :
    (kept salt hash).recipe length = .ok { standard with length } := by
  have memory : readNumber "19456" = .ok 19456 := by decide +kernel
  have passes : readNumber "2" = .ok 2 := by decide +kernel
  have lanes : readNumber "1" = .ok 1 := by decide +kernel
  simp only [recipe, kept, List.foldlM, applyCost, memory, passes, lanes, Except.mapError, bind,
    Except.bind, pure, Except.pure]
  rfl

/-- A text that says what is kept of a password is compared with the hash it holds. -/
theorem verify_kept {text : String} {salt hash : ByteArray} (fits : FitsSalt salt)
    (means : read text = .ok (kept (Base64.encodeUnpadded salt) hash))
    (whole : hash.size = standard.length) (password : String) :
    Password.verify password text =
      .ok (Argon2.hash standard password.toUTF8 salt == hash) := by
  have recipe := recipe_kept (Base64.encodeUnpadded salt) hash hash.size
  have same : { standard with length := hash.size } = standard := by rw [whole]
  rw [same] at recipe
  unfold Password.verify
  simp only [means, bind, Except.bind]
  simp only [kept, saltBytes_encodeUnpadded fits] at *
  rw [recipe]
  rfl

/-! ## The text that is kept -/

theorem hash_eq_intercalate (salt : ByteArray) (password : String) :
    Password.hash salt password = String.intercalate (String.singleton '$')
      ["", "argon2id", "v=19", "m=19456,t=2,p=1", Base64.encodeUnpadded salt,
        Base64.encodeUnpadded (Argon2.hash standard password.toUTF8 salt)] := by
  have opening : "$argon2id$v=" ++ toString standard.version.number ++ "$m=" ++
      toString standard.memory ++ ",t=" ++ toString standard.passes ++ ",p=" ++
      toString standard.lanes ++ "$" = "$argon2id$v=19$m=19456,t=2,p=1$" := by
    decide +kernel
  unfold Password.hash
  extract_lets r
  rw [opening]
  refine String.toList_inj.mp ?_
  simp [r]

/-- The text that is kept of a password is read as what it says. -/
theorem read_hash {salt : ByteArray} (fits : FitsSalt salt) (password : String) :
    read (Password.hash salt password) =
      .ok (kept (Base64.encodeUnpadded salt) (Argon2.hash standard password.toUTF8 salt)) := by
  have size : (Argon2.hash standard password.toUTF8 salt).size = standard.length :=
    Argon2.size_hash (by decide) _ _
  have free (bytes : ByteArray) : '$' ∉ (Base64.encodeUnpadded bytes).toList := by
    intro member
    rw [Base64.encodeUnpadded, String.toList_ofList] at member
    exact Base64.forall_encodeBytes (P := (· ≠ '$')) (by decide +kernel) _ '$' member rfl
  refine read_fields ?_ (readSalt_encodeUnpadded (Nat.le_trans (by decide) fits.1) fits.2)
    (readHash_encodeUnpadded (by rw [size]; decide) (by rw [size]; decide))
  rw [hash_eq_intercalate]
  refine Text.splitOn_intercalate '$' (by simp) ?_
  simp only [List.forall_mem_cons, free, not_false_eq_true, true_and]
  exact ⟨by decide +kernel, by decide +kernel, by decide +kernel, by decide +kernel,
    List.forall_mem_nil _⟩

end EncodedHash

namespace Password

open EncodedHash

/-- A password is compared with the kept one by the hashes of both. -/
theorem verify_hash {salt : ByteArray} (fits : FitsSalt salt) (password kept : String) :
    verify password (hash salt kept) =
      .ok (Argon2.hash standard password.toUTF8 salt == Argon2.hash standard kept.toUTF8 salt) :=
  verify_kept fits (read_hash fits kept) (Argon2.size_hash (by decide) _ _) password

/-- Every password is the one that its hash was made from. -/
theorem verify_hash_self {salt : ByteArray} (fits : FitsSalt salt) (password : String) :
    verify password (hash salt password) = .ok true := by
  rw [verify_hash fits]
  exact congrArg Except.ok (beq_self_eq_true (Argon2.hash standard password.toUTF8 salt).data)

end Password
end Shop
