/-
  DetectionJobs/Number/Power.lean
  ===============================
  **Powers of numbers.**

  Bounds such as `2 ^ 63` stand in many definitions.  Their powers are those of the core
  library, and stay so in modules that import more algebra.
-/

attribute [instance (1100), default_instance 11000] instPowNat
