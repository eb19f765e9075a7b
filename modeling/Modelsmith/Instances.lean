/-! Powers, hashes and zeros are those of the core library, whatever else is loaded. -/

set_option autoImplicit false

attribute [instance (2000), default_instance 20000] instPowNat

attribute [instance (2000)] instHashableChar Zero.ofOfNat0
