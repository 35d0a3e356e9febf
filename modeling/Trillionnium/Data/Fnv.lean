import Trillionnium.Json.Basic

namespace Fnv

open Json

def offsetBasis : UInt64 := 0xcbf29ce484222325

def prime : UInt64 := 0x00000100000001b3

def feed (hash : UInt64) (bytes : Bytes) : UInt64 :=
  bytes.foldl (fun hash byte => (hash ^^^ byte.toUInt64) * prime) hash

def leBytes (n : Nat) : Bytes := (List.range 8).map (fun i => (n / 256 ^ i % 256).toUInt8)

def beBytes (n : Nat) : Bytes := (leBytes n).reverse

def feedLen (hash : UInt64) (length : Nat) : UInt64 := feed hash (beBytes length)

def stableShardIndex (version : UInt8) (count : Nat) (domain : String) (fields : List String) : Nat :=
  let hash := feed offsetBasis [version]
  let hash := feedLen hash count
  let hash := feedLen hash (utf8 domain).length
  let hash := feed hash (utf8 domain)
  let hash := fields.foldl
    (fun hash field => feed (feedLen hash (utf8 field).length) (utf8 field)) hash
  hash.toNat % count

theorem stableShardIndex_lt {count : Nat} (hcount : 0 < count) {fields : List String} :
    stableShardIndex version count domain fields < count := by
  unfold stableShardIndex
  apply Nat.mod_lt
  exact hcount

end Fnv
