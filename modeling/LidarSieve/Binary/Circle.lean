import LidarSieve.Binary.Decimal
/-!
# Circular functions

The cosine and sine of four-byte words are those of the platform's mathematical library:
they are the only operations of this library that are not exact up to one rounding.
-/
set_option autoImplicit false

namespace LidarSieve.Binary.Number

/-- One degree in radians. -/
def radiansPerDegree : Single := ofDecimal false ⟨17453292519943295, -18⟩

/-- An angle in degrees, in radians. -/
def toRadians (degrees : Single) : Single := degrees * radiansPerDegree

/-- The platform's word of the same bits. -/
def toPlatform (x : Single) : Float32 := Float32.ofBits (UInt32.ofNat x.toBits)

/-- The word of the same bits as the platform's. -/
def ofPlatform (x : Float32) : Single := ofBits x.toBits.toNat

/-- The cosine of an angle in radians. -/
def cos (x : Single) : Single := ofPlatform x.toPlatform.cos

/-- The sine of an angle in radians. -/
def sin (x : Single) : Single := ofPlatform x.toPlatform.sin

end LidarSieve.Binary.Number
