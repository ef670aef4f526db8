/-!
# Zones and levels of the third generation

Commands that name a zone have a byte for each zone. Brightness and temperature
have a few levels, and a percentage stands for the lowest level that covers it.
-/

set_option autoImplicit false

namespace LightBridge.Zoned

/-- The level of a percentage, rounded up. -/
def level (value levels : Int) : Int := (value*levels+99).tdiv 100

/-- The percentage of a level, rounded down. -/
def percent (l levels : Int) : Int := (l*100).tdiv levels

/-- The byte for a zone in a table that starts with the byte for all zones. -/
def zoneByte (table : List UInt8) (zone : UInt8) : UInt8 := table.getD zone.toNat 0

end LightBridge.Zoned
