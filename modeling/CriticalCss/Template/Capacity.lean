/-!
# The storage of lists

A list is a view of storage that may hold more elements than the list:
its capacity. Appending to a full list moves it to new storage, whose
capacity depends on how much was asked for and on the sizes the memory
allocator hands out. The helpers' `slice` may reach past a list's length
up to its capacity, so the capacity of every list they build is part of
what they give.

The capacity asked for when a list of capacity `c` must hold `n`
elements is `n` when `n` exceeds `2c`, else `2c` while `c` is below 256,
else `c` grown by a quarter plus 192 until it holds `n`. The storage is
then rounded up to the next allocation size class (sizes up to 32 KiB), or
to whole 8 KiB pages beyond; storage over 512 bytes whose elements hold
references carries an 8-byte header that counts against its class. The
capacity is the rounded size divided by the element size.

## Main definitions

* `sizeClasses`: the allocation sizes of small objects.
* `roundUpSize`: the storage an allocation of a size really gets.
* `grownCapacity`: the capacity after growing to hold more elements.
* `capacityAfterAppends`: the capacity after appending elements one by one.
-/

namespace CriticalCss.Template

/-- The allocation sizes of small objects, in bytes. -/
def sizeClasses : List Nat :=
  [8, 16, 24, 32, 48, 64, 80, 96, 112, 128, 144, 160, 176, 192, 208, 224, 240, 256, 288, 320, 352,
   384, 416, 448, 480, 512, 576, 640, 704, 768, 896, 1024, 1152, 1280, 1408, 1536, 1792, 2048, 2304,
   2688, 3072, 3200, 3456, 4096, 4864, 5376, 6144, 6528, 6784, 6912, 8192, 9472, 9728, 10240, 10880,
   12288, 13568, 14336, 16384, 18432, 19072, 20480, 21760, 24576, 27264, 28672, 32768]

/-- The usable size of an allocation of `size` bytes: the smallest size
class that holds it (with a header of 8 bytes over 512 bytes when the
storage holds references), or whole pages for large objects. -/
def roundUpSize (size : Nat) (references : Bool) : Nat :=
  if size ≤ 32768 - 8 then
    let asked := if references && size > 512 then size + 8 else size
    ((sizeClasses.find? (· ≥ asked)).getD asked) - (asked - size)
  else (size + 8191) / 8192 * 8192

/-- Growth by a quarter plus 192 from `cap` until `n` fits, at most `fuel`
steps. -/
def quarterGrowth : Nat → Nat → Nat → Nat
  | 0, cap, _ => cap
  | fuel + 1, cap, n =>
    let cap := cap + (cap + 768) / 4
    if cap ≥ n then cap else quarterGrowth fuel cap n

/-- The capacity asked for when a list of capacity `oldCap` must hold
`newLen` elements. Each quarter step grows a capacity of at least 256 by
more than 256, so `newLen` steps suffice. -/
def nextCapacity (newLen oldCap : Nat) : Nat :=
  if newLen > 2 * oldCap then newLen
  else if oldCap < 256 then 2 * oldCap
  else quarterGrowth newLen oldCap newLen

/-- The size in bytes of an element and whether it holds references. -/
structure Slot where
  size : Nat
  references : Bool

/-- The capacity of new storage for a list of capacity `oldCap` that must
hold `newLen` elements. -/
def grownCapacity (slot : Slot) (oldCap newLen : Nat) : Nat :=
  let size := max slot.size 1
  roundUpSize (nextCapacity newLen oldCap * size) slot.references / size

/-- The capacity of a list after appending `count` elements one at a time
to an empty list of capacity `cap`. -/
def capacityAfterAppends (slot : Slot) (cap count : Nat) : Nat :=
  (List.range count).foldl (fun c k => if k + 1 > c then grownCapacity slot c (k + 1) else c) cap

end CriticalCss.Template
