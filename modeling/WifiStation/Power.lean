/-!
# WifiStation.Power

Powers of naturals and of integers are the core library's own throughout this library: the
programs here know no other, and the theory about them, which does, is to speak of the same ones.
-/

attribute [instance (high + 1), default_instance (high + 1)] instPowNat
