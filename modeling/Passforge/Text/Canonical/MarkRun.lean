import Passforge.Text.Canonical.CombiningClass

/-!
# Runs of Marks

A mark extends the run of marks it stands in, and a starter starts a new one.
How long a run is gets counted with every character spelled out, and that goes
further than decomposing it: a character that only stands for others is counted
as those. So a spacing accent counts as a space with a mark behind it, and
starts a run of one mark.

Some starters extend a run like marks. They are the vowel signs and Hangul
letters that join the character before them, and characters of another width or
shape that stand for one of these or for a mark.

The table gives the starters of both kinds. It is for characters that have no
decomposition; the run of any other one is counted along its parts.

## Main definitions

* `runRanges`: The starters that extend a run, or start one with marks in it.
* `freshRun?`: The length of the run a character starts.
-/

namespace Passforge.Text.Canonical

/-- The starters that extend a run, with no value, and those that start one with
    marks in it, with the number of these marks. -/
def runRanges : List (CodeRange (Option Nat)) := [
  ⟨0xA8, 0xA8, some 1⟩, ⟨0xAF, 0xAF, some 1⟩, ⟨0xB4, 0xB4, some 1⟩, ⟨0xB8, 0xB8, some 1⟩,
  ⟨0x1C4, 0x1C6, some 1⟩, ⟨0x2D8, 0x2DD, some 1⟩, ⟨0x37A, 0x37A, some 1⟩, ⟨0x384, 0x384, some 1⟩,
  ⟨0x9BE, 0x9BE, none⟩, ⟨0x9D7, 0x9D7, none⟩, ⟨0xB3E, 0xB3E, none⟩, ⟨0xB56, 0xB57, none⟩,
  ⟨0xBBE, 0xBBE, none⟩, ⟨0xBD7, 0xBD7, none⟩, ⟨0xCC2, 0xCC2, none⟩, ⟨0xCD5, 0xCD6, none⟩,
  ⟨0xD3E, 0xD3E, none⟩, ⟨0xD57, 0xD57, none⟩, ⟨0xDCF, 0xDCF, none⟩, ⟨0xDDF, 0xDDF, none⟩,
  ⟨0xF77, 0xF77, some 2⟩, ⟨0xF79, 0xF79, some 2⟩, ⟨0x102E, 0x102E, none⟩, ⟨0x1161, 0x1175, none⟩,
  ⟨0x11A8, 0x11C2, none⟩, ⟨0x1B35, 0x1B35, none⟩, ⟨0x1FBD, 0x1FBD, some 1⟩,
  ⟨0x1FBF, 0x1FC0, some 1⟩, ⟨0x1FFE, 0x1FFE, some 1⟩, ⟨0x2017, 0x2017, some 1⟩,
  ⟨0x203E, 0x203E, some 1⟩, ⟨0x309B, 0x309C, some 1⟩, ⟨0x3133, 0x3133, none⟩,
  ⟨0x3135, 0x3136, none⟩, ⟨0x313A, 0x313F, none⟩, ⟨0x314F, 0x3163, none⟩, ⟨0x326E, 0x327E, some 1⟩,
  ⟨0x3304, 0x3304, some 1⟩, ⟨0x3307, 0x3307, some 1⟩, ⟨0x3310, 0x3310, some 1⟩,
  ⟨0x331E, 0x331E, some 1⟩, ⟨0x3321, 0x3321, some 1⟩, ⟨0x3332, 0x3332, some 1⟩,
  ⟨0x333B, 0x333B, some 1⟩, ⟨0x3340, 0x3340, some 1⟩, ⟨0x334B, 0x334B, some 1⟩,
  ⟨0x334E, 0x334E, some 1⟩, ⟨0xFBA4, 0xFBA5, some 1⟩, ⟨0xFBB0, 0xFBB1, some 1⟩,
  ⟨0xFC5B, 0xFC5D, some 1⟩, ⟨0xFC5E, 0xFC63, some 2⟩, ⟨0xFC90, 0xFC90, some 1⟩,
  ⟨0xFCD9, 0xFCD9, some 1⟩, ⟨0xFCF2, 0xFCF4, some 2⟩, ⟨0xFD3C, 0xFD3D, some 1⟩,
  ⟨0xFE49, 0xFE4C, some 1⟩, ⟨0xFE70, 0xFE72, some 1⟩, ⟨0xFE74, 0xFE74, some 1⟩,
  ⟨0xFE76, 0xFE7F, some 1⟩, ⟨0xFE81, 0xFE8C, some 1⟩, ⟨0xFEF5, 0xFEFA, some 1⟩,
  ⟨0xFF9E, 0xFF9F, none⟩, ⟨0xFFA3, 0xFFA3, none⟩, ⟨0xFFA5, 0xFFA6, none⟩, ⟨0xFFAA, 0xFFAF, none⟩,
  ⟨0xFFC2, 0xFFC7, none⟩, ⟨0xFFCA, 0xFFCF, none⟩, ⟨0xFFD2, 0xFFD7, none⟩, ⟨0xFFDA, 0xFFDC, none⟩,
  ⟨0xFFE3, 0xFFE3, some 1⟩, ⟨0x11127, 0x11127, none⟩, ⟨0x1133E, 0x1133E, none⟩,
  ⟨0x11357, 0x11357, none⟩, ⟨0x114B0, 0x114B0, none⟩, ⟨0x114BA, 0x114BA, none⟩,
  ⟨0x114BD, 0x114BD, none⟩, ⟨0x115AF, 0x115AF, none⟩, ⟨0x11930, 0x11930, none⟩,
  ⟨0x1F213, 0x1F213, some 1⟩]

/-- The marks in the run that `c` starts; nothing if it extends the run
    before. -/
def freshRun? (c : Char) : Option Nat :=
  if isStarter c then (rangeValue? runRanges c).getD (some 0) else none

end Passforge.Text.Canonical
