/-
# Digests

`sha256_hex` asks the cryptographic service of the system for a digest and writes it down in
hexadecimal.  The service is a parameter: what the backup store relies on is that a digest has 32
bytes, and, where it takes two contents with one digest for the same, that they are.  The instance
is the function of the standard.
-/
import Kf2Optimizer.Core.Result
import Kf2Optimizer.Lib.Files
import Kf2Optimizer.Lib.Fips180
import Mathlib.Data.Set.Function

namespace Kf2Optimizer.Security

open Text Files

/-- The service. -/
class Bcrypt where
  sha256 : Bytes → Bytes
  length_sha256 : ∀ bytes, (sha256 bytes).length = 32

instance : Bcrypt := ⟨Fips180.sha256, Fips180.length_sha256⟩

variable [Bcrypt] {P : Type} [DecidableEq P]

/-- The digest of some bytes in hexadecimal. -/
def digestHex (bytes : Bytes) : Bytes := hexEncode (Bcrypt.sha256 bytes)

/-- No two of these contents have one digest. -/
def CollisionFree (S : Set Bytes) : Prop := Set.InjOn Bcrypt.sha256 S

theorem CollisionFree.eq {S : Set Bytes} (h : CollisionFree S) {a b : Bytes} (ha : a ∈ S)
    (hb : b ∈ S) (heq : digestHex a = digestHex b) : a = b :=
  h ha hb (hexEncode_injective heq)

/-- `valid_hash`: 64 digits in lower case. -/
def ValidHash (hash : Bytes) : Prop := hash.length = 64 ∧ HexText hash

instance (hash : Bytes) : Decidable (ValidHash hash) := inferInstanceAs (Decidable (_ ∧ _))

theorem validHash_digestHex (bytes : Bytes) : ValidHash (digestHex bytes) := by
  constructor
  · rw [digestHex, length_hexEncode, Bcrypt.length_sha256]
  · exact hexText_hexEncode _

/-- `sha256_hex`. -/
def sha256Hex (bytes : Bytes) : Task P Bytes Error Bytes := do
  match ← perform .ask with
  | .done => pure (digestHex bytes)
  | _ => throw { code := .platformFailure, message := "SHA-256 operation failed" }

theorem careful_sha256Hex {R : P → Prop} (bytes : Bytes) :
    Careful R (fun _ => True) (sha256Hex bytes : Task P Bytes Error Bytes).run := by
  refine careful_perform trivial ⟨_, trivial, rfl⟩ fun answer => ?_
  cases answer <;> exact .ret _

@[simp] theorem value_sha256Hex (bytes : Bytes) (d : Disk P Bytes) :
    value (sha256Hex bytes : Task P Bytes Error Bytes).run d = .ok (digestHex bytes) := rfl

/-- What `sha256_file_hex` makes of the bytes of a file. -/
def sha256OfFile (bytes : Bytes) (maximum : ℕ) : Task P Bytes Error Bytes := do
  ensure (bytes.length ≤ maximum)
    { code := .accessDenied, message := "SHA-256 input exceeds its size limit" }
  match ← perform .ask with
  | .done => pure (digestHex bytes)
  | _ => throw { code := .platformFailure, message := "SHA-256 file operation failed" }

/-- `sha256_file_hex`. -/
def sha256FileHex (path : P) (maximum : ℕ) : Task P Bytes Error Bytes := do
  match ← perform (.read path) with
  | .content bytes => sha256OfFile bytes maximum
  | _ => throw { code := .ioFailure, message := "File cannot be opened for SHA-256" }

theorem careful_sha256OfFile {R : P → Prop} (bytes : Bytes) (maximum : ℕ) :
    Careful R (fun _ => True) (sha256OfFile bytes maximum : Task P Bytes Error Bytes).run := by
  refine (careful_ensure _ _).bind fun _ => ?_
  refine careful_perform trivial ⟨_, trivial, rfl⟩ fun answer => ?_
  cases answer <;> exact .ret _

theorem careful_sha256FileHex {R : P → Prop} {path : P} (h : R path) (maximum : ℕ) :
    Careful R (fun _ => True) (sha256FileHex path maximum : Task P Bytes Error Bytes).run := by
  refine careful_perform h ⟨_, trivial, rfl⟩ fun answer => ?_
  cases answer
  case content bytes => exact careful_sha256OfFile bytes maximum
  all_goals exact .ret _

theorem value_sha256OfFile_eq_ok {bytes hash : Bytes} {maximum : ℕ} {d : Disk P Bytes}
    (h : value (sha256OfFile bytes maximum : Task P Bytes Error Bytes).run d = .ok hash) :
    hash = digestHex bytes := by
  obtain ⟨_, -, h⟩ := value_bind_eq_ok.mp h
  injection h with h
  exact h.symm

theorem value_sha256FileHex_eq_ok {path : P} {hash : Bytes} {maximum : ℕ} {d : Disk P Bytes}
    (h : value (sha256FileHex path maximum : Task P Bytes Error Bytes).run d = .ok hash) :
    ∃ bytes, d path = some bytes ∧ hash = digestHex bytes := by
  rw [sha256FileHex, value_perform] at h
  cases hdisk : d path with
  | none =>
    simp only [Op.answer, hdisk] at h
    cases h
  | some bytes =>
    simp only [Op.answer, hdisk] at h
    exact ⟨bytes, rfl, value_sha256OfFile_eq_ok h⟩

end Kf2Optimizer.Security
