import YubiHsm.Bytes

/-!
# Cryptographic building blocks of SCP03

AES-128 and AES-128-CMAC (the `aes` and `cmac` crates) are the parameter `Aes128`: a keyed
block permutation, whose decryption inverts encryption, and a keyed MAC with 16-byte output.
Everything built on them is modelled: CBC mode with ISO/IEC 7816-4 padding as `block-modes`
applies it (`encryptPad`, `decryptPad`), the ICV of `compute_icv`, and the SCP03 key
derivation of `kdf.rs` (modelled from the spec, like the challenge, context, cryptogram and
auth key files, which are not part of these sources).

The facts proved here are the ones the channel proofs use: CBC decryption inverts CBC
encryption (`decryptPad_encryptPad`), a padded message of `n` bytes encrypts to
`16 * (n / 16 + 1)` bytes (`length_encryptPad`), decryption under another IV garbles the first
block of the padded message only (`decryptPad_encryptPad_iv`, `garbledPlaintext`), which gives
the message back exactly when the IVs agree (`garbledPlaintext_eq_some_self_iff`), and
different counters give different ICVs (`computeIcv_injective`).
-/

namespace YubiHsm

/-- AES-128 and AES-128-CMAC, taken as parameters. -/
structure Aes128 where
  encryptBlock : Block → Block → Block
  decryptBlock : Block → Block → Block
  decryptBlock_encryptBlock : ∀ key b, decryptBlock key (encryptBlock key b) = b
  cmac : Block → List UInt8 → Block

/-! ## Blocks of a byte string -/

def flattenBlocks (bs : List Block) : List UInt8 := bs.flatMap (·.toList)

@[simp] theorem flattenBlocks_nil : flattenBlocks [] = [] := rfl

@[simp] theorem flattenBlocks_cons (b : Block) (bs : List Block) :
    flattenBlocks (b :: bs) = b.toList ++ flattenBlocks bs := rfl

theorem length_flattenBlocks (bs : List Block) : (flattenBlocks bs).length = 16 * bs.length := by
  induction bs with
  | nil => rfl
  | cons b bs ih => simp [ih]; omega

/-- The first `n` blocks of a byte string. Callers pass at least `16 * n` bytes; the zeros
only make every block 16 bytes long by construction. -/
def takeBlocks : Nat → List UInt8 → List Block
  | 0, _ => []
  | n + 1, l =>
    ⟨(l.take 16 ++ List.replicate 16 0).take 16, by simp⟩ :: takeBlocks n (l.drop 16)

/-- Cuts a byte string into blocks; `none` unless its length is a multiple of 16. -/
def toBlocks (l : List UInt8) : Option (List Block) :=
  if l.length % 16 = 0 then some (takeBlocks (l.length / 16) l) else none

theorem takeBlocks_flattenBlocks (bs : List Block) :
    takeBlocks bs.length (flattenBlocks bs) = bs := by
  induction bs with
  | nil => rfl
  | cons b bs ih =>
    have hb : b.toList.length = 16 := b.2
    simp only [List.length_cons, takeBlocks, flattenBlocks_cons, List.drop_left' hb, ih,
      List.cons.injEq, and_true]
    apply Subtype.ext
    simp [List.take_left' hb, List.take_append_eq_append_take, hb]
    rfl

@[simp] theorem length_takeBlocks (n : Nat) (l : List UInt8) : (takeBlocks n l).length = n := by
  induction n generalizing l <;> simp_all [takeBlocks]

theorem toBlocks_flattenBlocks (bs : List Block) : toBlocks (flattenBlocks bs) = some bs := by
  simp [toBlocks, length_flattenBlocks, takeBlocks_flattenBlocks]

theorem flattenBlocks_takeBlocks (n : Nat) (l : List UInt8) (h : 16 * n ≤ l.length) :
    flattenBlocks (takeBlocks n l) = l.take (16 * n) := by
  induction n generalizing l with
  | zero => simp [takeBlocks]
  | succ n ih =>
    rw [takeBlocks, flattenBlocks_cons, ih _ (by simp; omega)]
    have h16 : (l.take 16).length = 16 := by simp; omega
    simp only [List.take_left' h16, List.drop_drop]
    rw [show 16 * (n + 1) = 16 + 16 * n by omega, List.take_add]
    simp [List.take_append_eq_append_take, h16]

/-! ## CBC mode with ISO/IEC 7816-4 padding -/

/-- What `encrypt_pad` pads and cuts into blocks: the buffer the callers build, the message
followed by a spare block, with ISO/IEC 7816-4 padding written at the message's end (`0x80`,
then the zeros already there), up to the end of the message's last block. A message of whole
blocks gets a block of padding of its own. -/
def padBlocks (m : List UInt8) : List Block :=
  takeBlocks (m.length / 16 + 1) (m ++ 0x80 :: List.replicate 15 0)

/-- ISO/IEC 7816-4 unpadding (`Iso7816::unpad`): drop the trailing zeros, then the `0x80`
that must come before them. -/
def iso7816Unpad (d : List UInt8) : Option (List UInt8) :=
  match d.reverse.dropWhile (· == 0) with
  | b :: rest => if b = 0x80 then some rest.reverse else none
  | [] => none

theorem length_padBlocks (m : List UInt8) : (padBlocks m).length = m.length / 16 + 1 :=
  length_takeBlocks _ _

theorem flattenBlocks_padBlocks (m : List UInt8) :
    flattenBlocks (padBlocks m) = m ++ 0x80 :: List.replicate (15 - m.length % 16) 0 := by
  rw [padBlocks, flattenBlocks_takeBlocks _ _ (by simp; omega), List.take_append_eq_append_take,
    List.take_of_length_le (by omega)]
  rw [show 16 * (m.length / 16 + 1) - m.length = (15 - m.length % 16) + 1 by omega,
    List.take_succ_cons, List.take_replicate, Nat.min_eq_left (by omega)]

theorem iso7816Unpad_pad (m : List UInt8) (k : Nat) :
    iso7816Unpad (m ++ 0x80 :: List.replicate k 0) = some m := by
  have : (List.replicate k (0 : UInt8)).reverse.dropWhile (· == 0) = [] := by
    simp [List.dropWhile_eq_nil_iff]
  simp [iso7816Unpad, List.reverse_append, List.dropWhile_append, this]

/-- Unpadding succeeds only on a message followed by `0x80` and zeros. -/
theorem eq_pad_of_iso7816Unpad {d m : List UInt8} (h : iso7816Unpad d = some m) :
    ∃ k, d = m ++ 0x80 :: List.replicate k 0 := by
  unfold iso7816Unpad at h
  split at h
  · next b rest hdrop =>
    split_ifs at h with hb
    obtain rfl := Option.some.inj h
    obtain ⟨k, hz⟩ : ∃ k, d.reverse.takeWhile (· == 0) = List.replicate k 0 :=
      ⟨_, List.eq_replicate_of_mem fun x hx => by simpa using List.mem_takeWhile_imp hx⟩
    have hd := List.takeWhile_append_dropWhile (· == 0) d.reverse
    rw [hdrop, hz, hb] at hd
    refine ⟨k, ?_⟩
    rw [← List.reverse_reverse d, ← hd]
    simp
  · cases h

def cbcEncrypt (aes : Aes128) (key : Block) : Block → List Block → List Block
  | _, [] => []
  | iv, p :: ps =>
    let c := aes.encryptBlock key (Bytes.xor p iv)
    c :: cbcEncrypt aes key c ps

def cbcDecrypt (aes : Aes128) (key : Block) : Block → List Block → List Block
  | _, [] => []
  | iv, c :: cs => Bytes.xor (aes.decryptBlock key c) iv :: cbcDecrypt aes key c cs

theorem cbcDecrypt_cbcEncrypt (aes : Aes128) (key iv : Block) (ps : List Block) :
    cbcDecrypt aes key iv (cbcEncrypt aes key iv ps) = ps := by
  induction ps generalizing iv with
  | nil => rfl
  | cons p ps ih => simp [cbcEncrypt, cbcDecrypt, aes.decryptBlock_encryptBlock, ih]

theorem length_cbcEncrypt (aes : Aes128) (key iv : Block) (ps : List Block) :
    (cbcEncrypt aes key iv ps).length = ps.length := by
  induction ps generalizing iv with
  | nil => rfl
  | cons p ps ih => simp [cbcEncrypt, ih]

/-- `Aes128Cbc::new(cipher, &icv).encrypt_pad(&mut buffer, pos)` on a buffer holding the
message and one spare block: the CBC encryption of the padded message. The spare block
makes the padding always fit, so the `unwrap` the callers put on it never fires. -/
def encryptPad (aes : Aes128) (key iv : Block) (message : List UInt8) : List UInt8 :=
  flattenBlocks (cbcEncrypt aes key iv (padBlocks message))

/-- `Aes128Cbc::new(cipher, &icv).decrypt_pad(&mut buffer)`: fails unless the buffer is whole
blocks whose decryption ends in valid padding. -/
def decryptPad (aes : Aes128) (key iv : Block) (data : List UInt8) : Option (List UInt8) :=
  (toBlocks data).bind fun bs => iso7816Unpad (flattenBlocks (cbcDecrypt aes key iv bs))

/-- A message of `n` bytes encrypts to `16 * (n / 16 + 1)` bytes. -/
theorem length_encryptPad (aes : Aes128) (key iv : Block) (message : List UInt8) :
    (encryptPad aes key iv message).length = 16 * (message.length / 16 + 1) := by
  simp [encryptPad, length_flattenBlocks, length_cbcEncrypt, length_padBlocks]

/-- Decryption with the key and ICV of the encryption gives the message back. -/
theorem decryptPad_encryptPad (aes : Aes128) (key iv : Block) (message : List UInt8) :
    decryptPad aes key iv (encryptPad aes key iv message) = some message := by
  simp [decryptPad, encryptPad, toBlocks_flattenBlocks, cbcDecrypt_cbcEncrypt,
    flattenBlocks_padBlocks, iso7816Unpad_pad]

/-! ## Decryption under another ICV

CBC chains every block to the ciphertext block before it, so decrypting with the wrong IV
garbles the first block only: it comes out XORed with the difference of the two IVs. -/

def xorFirstBlock (d : Block) (l : List UInt8) : List UInt8 :=
  List.zipWith (· ^^^ ·) (l.take 16) d.toList ++ l.drop 16

theorem xorFirstBlock_block_append (d b : Block) (rest : List UInt8) :
    xorFirstBlock d (b.toList ++ rest) = (Bytes.xor b d).toList ++ rest := by
  have hb : b.toList.length = 16 := b.2
  simp [xorFirstBlock, List.take_left' hb, List.drop_left' hb]

theorem exists_block_append {l : List UInt8} (h : 16 ≤ l.length) :
    ∃ (b : Block) (rest : List UInt8), l = b.toList ++ rest :=
  ⟨⟨l.take 16, by simp; omega⟩, l.drop 16, (List.take_append_drop 16 l).symm⟩

theorem xorFirstBlock_append {l : List UInt8} (h : 16 ≤ l.length) (d : Block)
    (t : List UInt8) : xorFirstBlock d (l ++ t) = xorFirstBlock d l ++ t := by
  obtain ⟨b, rest, rfl⟩ := exists_block_append h
  simp only [List.append_assoc, xorFirstBlock_block_append]

/-- On at least a block of bytes, XORing the first block changes nothing only for zero. -/
theorem xorFirstBlock_eq_self_iff {l : List UInt8} (h : 16 ≤ l.length) {d : Block} :
    xorFirstBlock d l = l ↔ d = Bytes.zero 16 := by
  obtain ⟨b, rest, rfl⟩ := exists_block_append h
  rw [xorFirstBlock_block_append, List.append_left_inj, Mathlib.Vector.toList_injective.eq_iff,
    Bytes.xor_eq_self_iff]

/-- CBC decryption under `iv'` of a CBC encryption under `iv`: the first block comes out XORed
with `iv ⊕ iv'`, the rest intact. -/
theorem cbcDecrypt_cbcEncrypt_cons (aes : Aes128) (key iv iv' p : Block) (ps : List Block) :
    cbcDecrypt aes key iv' (cbcEncrypt aes key iv (p :: ps)) =
      Bytes.xor p (Bytes.xor iv iv') :: ps := by
  simp [cbcEncrypt, cbcDecrypt, aes.decryptBlock_encryptBlock, cbcDecrypt_cbcEncrypt,
    Bytes.xor_assoc]

@[simp] theorem length_xorFirstBlock (d : Block) (l : List UInt8) :
    (xorFirstBlock d l).length = l.length := by
  simp [xorFirstBlock]
  omega

/-- What decryption under an ICV off by `d` makes of a message: the padded message with its
first block XORed with `d`, unpadded. The unpadding fails when the XOR garbles the padding. -/
def garbledPlaintext (d : Block) (message : List UInt8) : Option (List UInt8) :=
  iso7816Unpad (xorFirstBlock d (message ++ 0x80 :: List.replicate (15 - message.length % 16) 0))

/-- A message of at least a block comes back with its first block XORed with `d`. -/
theorem garbledPlaintext_of_le {message : List UInt8} (h : 16 ≤ message.length) (d : Block) :
    garbledPlaintext d message = some (xorFirstBlock d message) := by
  rw [garbledPlaintext, xorFirstBlock_append h, iso7816Unpad_pad]

/-- Whatever its length, a message comes back as it was exactly under the right ICV: its
padded form fills at least a block, and unpadding reads the length of the padding off it. -/
theorem garbledPlaintext_eq_some_self_iff (d : Block) (message : List UInt8) :
    garbledPlaintext d message = some message ↔ d = Bytes.zero 16 := by
  have hpad : 16 ≤ (message ++ 0x80 :: List.replicate (15 - message.length % 16) 0).length := by
    simp
    omega
  rw [garbledPlaintext, ← xorFirstBlock_eq_self_iff hpad]
  constructor
  · intro h
    obtain ⟨k, hk⟩ := eq_pad_of_iso7816Unpad h
    have hlen := congrArg List.length hk
    simp only [length_xorFirstBlock, List.length_append, List.length_cons,
      List.length_replicate] at hlen
    rwa [show k = 15 - message.length % 16 by omega] at hk
  · intro h
    rw [h, iso7816Unpad_pad]

/-- Decryption under `iv'` of what was encrypted under `iv` is the garbled plaintext of
`iv ⊕ iv'`. -/
theorem decryptPad_encryptPad_iv (aes : Aes128) (key iv iv' : Block) (message : List UInt8) :
    decryptPad aes key iv' (encryptPad aes key iv message) =
      garbledPlaintext (Bytes.xor iv iv') message := by
  obtain ⟨p, ps, hp⟩ : ∃ p ps, padBlocks message = p :: ps :=
    List.exists_cons_of_length_pos (by rw [length_padBlocks]; omega)
  rw [garbledPlaintext, ← flattenBlocks_padBlocks, hp, flattenBlocks_cons,
    xorFirstBlock_block_append]
  simp [decryptPad, encryptPad, toBlocks_flattenBlocks, hp, cbcDecrypt_cbcEncrypt_cons]

/-! ## ICV, key derivation, challenges and cryptograms -/

/-- `compute_icv`: the counter big-endian in the last four bytes of a zero block, encrypted
under S-ENC. -/
def computeIcv (aes : Aes128) (key : Block) (counter : UInt32) : Block :=
  aes.encryptBlock key ⟨List.replicate 12 0 ++ writeU32 counter, by simp⟩

theorem Aes128.encryptBlock_injective (aes : Aes128) (key : Block) :
    Function.Injective (aes.encryptBlock key) := fun a b h => by
  rw [← aes.decryptBlock_encryptBlock key a, h, aes.decryptBlock_encryptBlock]

theorem computeIcv_injective (aes : Aes128) (key : Block) :
    Function.Injective (computeIcv aes key) := fun _ _ h =>
  writeU32_injective (List.append_cancel_left (congrArg Subtype.val
    (aes.encryptBlock_injective key h)))

def challengeSize : Nat := 8

/-- Modelled from the spec: `challenge.rs` is not part of the sources. A challenge is eight
random bytes. -/
abbrev Challenge := Bytes challengeSize

/-- Modelled from the spec: `context.rs` is not part of the sources. The context is the host
challenge followed by the card challenge. -/
abbrev Context := Bytes 16

/-- Modelled from the spec: `Context::from_challenges`. -/
def Context.fromChallenges (hostChallenge cardChallenge : Challenge) : Context :=
  Mathlib.Vector.append hostChallenge cardChallenge

def cryptogramSize : Nat := 8

/-- Modelled from the spec: `cryptogram.rs` is not part of the sources. A cryptogram is the
first eight bytes of a KDF output, compared in constant time. -/
abbrev Cryptogram := Bytes cryptogramSize

/-- Modelled from the spec: `kdf.rs` is not part of the sources. The SCP03 KDF with a
one-block counter: CMAC under the parent key of `0x00 × 11 ∥ label ∥ 0x00 ∥ 0x0080 ∥ 0x01`
followed by the context. Callers keep as many bytes of the output as they need. -/
def Kdf.derive (aes : Aes128) (parentKey : Block) (derivationConstant : UInt8)
    (context : Context) : Block :=
  aes.cmac parentKey (List.replicate 11 0 ++ [derivationConstant, 0x00, 0x00, 0x80, 0x01] ++
    context.toList)

/-- `derive_key`: a 16-byte session key from a parent key. -/
def deriveKey (aes : Aes128) (parentKey : Block) (derivationConstant : UInt8)
    (context : Context) : Block :=
  Kdf.derive aes parentKey derivationConstant context

/-- Modelled from the spec: `auth_key.rs` is not part of the sources. An auth key is a
16-byte encryption key K-ENC and a 16-byte MAC key K-MAC. -/
structure AuthKey where
  encKey : Block
  macKey : Block

/-! ## A sample of the primitives -/

/-- XOR with the key as the block cipher and the key itself as the MAC. It satisfies the one
law `Aes128` asks for, and serves to instantiate the theorems at concrete inputs. -/
def Aes128.sample : Aes128 where
  encryptBlock key b := Bytes.xor b key
  decryptBlock key b := Bytes.xor b key
  decryptBlock_encryptBlock key b := Bytes.xor_xor b key
  cmac key _ := key

/-- An auth key with two different nonzero halves. -/
def AuthKey.sample : AuthKey := ⟨Mathlib.Vector.replicate 16 1, Mathlib.Vector.replicate 16 2⟩

end YubiHsm
