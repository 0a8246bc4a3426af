/-
# General categories of characters

Which characters are letters, digits, marks or printable is decided by the
general category that the Unicode standard (version 15.0) gives each code point.
The table lists the categories as runs from U+0000 upward; alphabets that
alternate upper and lower case are listed as runs of pairs.

## Main definitions

* `Category`: the thirty general categories;
* `Category.ofCode`: the category of a code point;
* `Char.category` and the classes `isLetter`, `isUpper`, `isLower`, `isDigit`,
  `isGraphic` and `isBlank` derived from it.
-/

import Accord.Text.Utf8

namespace Accord

/-- A general category of the Unicode standard. -/
inductive Category where
  | lu | ll | lt | lm | lo
  | mn | mc | me
  | nd | nl | no
  | pc | pd | ps | pe | pi | pf | po
  | sm | sc | sk | so
  | zs | zl | zp
  | cc | cf | cs | co | cn
  deriving DecidableEq, Repr

namespace Category

/-- A stretch of code points: `n` of one category, or `n` pairs of two. -/
inductive Run where
  | run (category : Category) (n : Nat)
  | pairs (first second : Category) (n : Nat)

open Run

/-- Part 1 of the category runs. -/
private def runs1 : List Run :=
  [run cc 32, run zs 1, run po 3, run sc 1, run po 3, run ps 1, run pe 1, run po 1, run sm 1,
   run po 1, run pd 1, run po 2, run nd 10, run po 2, run sm 3, run po 2, run lu 26, run ps 1,
   run po 1, run pe 1, run sk 1, run pc 1, run sk 1, run ll 26, run ps 1, run sm 1, run pe 1,
   run sm 1, run cc 33, run zs 1, run po 1, run sc 4, run so 1, run po 1, run sk 1, run so 1,
   run lo 1, run pi 1, run sm 1, run cf 1, run so 1, run sk 1, run so 1, run sm 1, run no 2,
   run sk 1, run ll 1, run po 2, run sk 1, run no 1, run lo 1, run pf 1, run no 3, run po 1,
   run lu 23, run sm 1, run lu 7, run ll 24, run sm 1, run ll 8, pairs lu ll 27, run lu 1, run ll 2,
   pairs lu ll 7, run lu 1, run ll 2, pairs lu ll 23, run lu 2, pairs ll lu 2, run ll 3, run lu 2,
   run ll 1, run lu 1, run ll 1, run lu 2, run ll 1, run lu 3, run ll 2, run lu 4, run ll 1,
   run lu 2, run ll 1, run lu 3, run ll 3, run lu 2, run ll 1, run lu 2, pairs ll lu 2, run ll 1,
   run lu 2, run ll 1, run lu 1, run ll 2, run lu 1, run ll 1, run lu 2, run ll 1, run lu 3,
   run ll 1, run lu 1, run ll 1, run lu 2, run ll 2, run lo 1, run lu 1, run ll 3, run lo 4,
   run lu 1, run lt 1, run ll 1, run lu 1, run lt 1, run ll 1, run lu 1, run lt 1, pairs ll lu 8,
   run ll 2, pairs lu ll 8, run lu 1, run ll 2, run lu 1, run lt 1, run ll 1, run lu 1, run ll 1,
   run lu 3, pairs ll lu 29, run ll 7, run lu 2, run ll 1, run lu 2, run ll 2, run lu 1, run ll 1,
   run lu 4, pairs ll lu 4, run ll 69, run lo 1, run ll 27, run lm 18, run sk 4, run lm 12,
   run sk 14, run lm 5, run sk 7, run lm 1, run sk 1, run lm 1, run sk 17, run mn 112,
   pairs lu ll 2, run lm 1, run sk 1, run lu 1, run ll 1, run cn 2, run lm 1, run ll 3, run po 1,
   run lu 1, run cn 4, run sk 2, run lu 1, run po 1, run lu 3, run cn 1, run lu 1, run cn 1,
   run lu 2, run ll 1, run lu 17, run cn 1, run lu 9, run ll 35, run lu 1, run ll 2, run lu 3,
   run ll 3, pairs lu ll 11, run lu 1, run ll 5, run lu 1, run ll 1, run sm 1, run lu 1, run ll 1,
   run lu 2, run ll 2, run lu 51, run ll 48, pairs lu ll 17, run so 1, run mn 5, run me 2,
   pairs lu ll 27, run lu 2, pairs ll lu 6, run ll 2, pairs lu ll 48, run cn 1, run lu 38, run cn 2,
   run lm 1, run po 6, run ll 41, run po 1, run pd 1, run cn 2, run so 2, run sc 1, run cn 1,
   run mn 45, run pd 1, run mn 1, run po 1, run mn 2, run po 1, run mn 2, run po 1, run mn 1,
   run cn 8, run lo 27, run cn 4, run lo 4, run po 2, run cn 11, run cf 6, run sm 3, run po 2,
   run sc 1, run po 2, run so 2, run mn 11, run po 1, run cf 1, run po 3, run lo 32, run lm 1,
   run lo 10, run mn 21, run nd 10, run po 4, run lo 2, run mn 1, run lo 99, run po 1, run lo 1,
   run mn 7, run cf 1, run so 1, run mn 6, run lm 2, run mn 2, run so 1, run mn 4, run lo 2,
   run nd 10, run lo 3, run so 2, run lo 1, run po 14, run cn 1, run cf 1, run lo 1, run mn 1,
   run lo 30, run mn 27, run cn 2, run lo 89, run mn 11, run lo 1, run cn 14, run nd 10, run lo 33,
   run mn 9, run lm 2, run so 1, run po 3, run lm 1, run cn 2, run mn 1, run sc 2, run lo 22,
   run mn 4, run lm 1, run mn 9, run lm 1, run mn 3, run lm 1, run mn 5, run cn 2, run po 15,
   run cn 1, run lo 25, run mn 3, run cn 2, run po 1, run cn 1, run lo 11, run cn 5, run lo 24,
   run sk 1, run lo 6, run cn 1, run cf 2, run cn 6, run mn 8, run lo 41, run lm 1, run mn 24,
   run cf 1, run mn 32, run mc 1, run lo 54, run mn 1, run mc 1, run mn 1, run lo 1, run mc 3,
   run mn 8, run mc 4, run mn 1, run mc 2, run lo 1, run mn 7, run lo 10, run mn 2, run po 2,
   run nd 10, run po 1, run lm 1, run lo 15, run mn 1, run mc 2, run cn 1, run lo 8, run cn 2,
   run lo 2, run cn 2, run lo 22, run cn 1, run lo 7, run cn 1, run lo 1, run cn 3, run lo 4,
   run cn 2, run mn 1, run lo 1, run mc 3, run mn 4, run cn 2, run mc 2, run cn 2, run mc 2,
   run mn 1, run lo 1, run cn 8, run mc 1, run cn 4, run lo 2, run cn 1, run lo 3, run mn 2,
   run cn 2, run nd 10, run lo 2, run sc 2, run no 6, run so 1, run sc 1, run lo 1, run po 1,
   run mn 1, run cn 2, run mn 2, run mc 1, run cn 1, run lo 6, run cn 4, run lo 2, run cn 2,
   run lo 22, run cn 1, run lo 7, run cn 1, run lo 2, run cn 1, run lo 2, run cn 1, run lo 2,
   run cn 2, run mn 1, run cn 1, run mc 3, run mn 2, run cn 4, run mn 2, run cn 2, run mn 3]

/-- Part 2 of the category runs. -/
private def runs2 : List Run :=
  [run cn 3, run mn 1, run cn 7, run lo 4, run cn 1, run lo 1, run cn 7, run nd 10, run mn 2,
   run lo 3, run mn 1, run po 1, run cn 10, run mn 2, run mc 1, run cn 1, run lo 9, run cn 1,
   run lo 3, run cn 1, run lo 22, run cn 1, run lo 7, run cn 1, run lo 2, run cn 1, run lo 5,
   run cn 2, run mn 1, run lo 1, run mc 3, run mn 5, run cn 1, run mn 2, run mc 1, run cn 1,
   run mc 2, run mn 1, run cn 2, run lo 1, run cn 15, run lo 2, run mn 2, run cn 2, run nd 10,
   run po 1, run sc 1, run cn 7, run lo 1, run mn 6, run cn 1, run mn 1, run mc 2, run cn 1,
   run lo 8, run cn 2, run lo 2, run cn 2, run lo 22, run cn 1, run lo 7, run cn 1, run lo 2,
   run cn 1, run lo 5, run cn 2, run mn 1, run lo 1, run mc 1, run mn 1, run mc 1, run mn 4,
   run cn 2, run mc 2, run cn 2, run mc 2, run mn 1, run cn 7, run mn 2, run mc 1, run cn 4,
   run lo 2, run cn 1, run lo 3, run mn 2, run cn 2, run nd 10, run so 1, run lo 1, run no 6,
   run cn 10, run mn 1, run lo 1, run cn 1, run lo 6, run cn 3, run lo 3, run cn 1, run lo 4,
   run cn 3, run lo 2, run cn 1, run lo 1, run cn 1, run lo 2, run cn 3, run lo 2, run cn 3,
   run lo 3, run cn 3, run lo 12, run cn 4, run mc 2, run mn 1, run mc 2, run cn 3, run mc 3,
   run cn 1, run mc 3, run mn 1, run cn 2, run lo 1, run cn 6, run mc 1, run cn 14, run nd 10,
   run no 3, run so 6, run sc 1, run so 1, run cn 5, run mn 1, run mc 3, run mn 1, run lo 8,
   run cn 1, run lo 3, run cn 1, run lo 23, run cn 1, run lo 16, run cn 2, run mn 1, run lo 1,
   run mn 3, run mc 4, run cn 1, run mn 3, run cn 1, run mn 4, run cn 7, run mn 2, run cn 1,
   run lo 3, run cn 2, run lo 1, run cn 2, run lo 2, run mn 2, run cn 2, run nd 10, run cn 7,
   run po 1, run no 7, run so 1, run lo 1, run mn 1, run mc 2, run po 1, run lo 8, run cn 1,
   run lo 3, run cn 1, run lo 23, run cn 1, run lo 10, run cn 1, run lo 5, run cn 2, run mn 1,
   run lo 1, run mc 1, run mn 1, run mc 5, run cn 1, run mn 1, run mc 2, run cn 1, run mc 2,
   run mn 2, run cn 7, run mc 2, run cn 6, run lo 2, run cn 1, run lo 2, run mn 2, run cn 2,
   run nd 10, run cn 1, run lo 2, run mc 1, run cn 12, run mn 2, run mc 2, run lo 9, run cn 1,
   run lo 3, run cn 1, run lo 41, run mn 2, run lo 1, run mc 3, run mn 4, run cn 1, run mc 3,
   run cn 1, run mc 3, run mn 1, run lo 1, run so 1, run cn 4, run lo 3, run mc 1, run no 7,
   run lo 3, run mn 2, run cn 2, run nd 10, run no 9, run so 1, run lo 6, run cn 1, run mn 1,
   run mc 2, run cn 1, run lo 18, run cn 3, run lo 24, run cn 1, run lo 9, run cn 1, run lo 1,
   run cn 2, run lo 7, run cn 3, run mn 1, run cn 4, run mc 3, run mn 3, run cn 1, run mn 1,
   run cn 1, run mc 8, run cn 6, run nd 10, run cn 2, run mc 2, run po 1, run cn 12, run lo 48,
   run mn 1, run lo 2, run mn 7, run cn 4, run sc 1, run lo 6, run lm 1, run mn 8, run po 1,
   run nd 10, run po 2, run cn 37, run lo 2, run cn 1, run lo 1, run cn 1, run lo 5, run cn 1,
   run lo 24, run cn 1, run lo 1, run cn 1, run lo 10, run mn 1, run lo 2, run mn 9, run lo 1,
   run cn 2, run lo 5, run cn 1, run lm 1, run cn 1, run mn 7, run cn 1, run nd 10, run cn 2,
   run lo 4, run cn 32, run lo 1, run so 3, run po 15, run so 1, run po 1, run so 3, run mn 2,
   run so 6, run nd 10, run no 10, pairs so mn 3, pairs ps pe 2, run mc 2, run lo 8, run cn 1,
   run lo 36, run cn 4, run mn 14, run mc 1, run mn 5, run po 1, run mn 2, run lo 5, run mn 11,
   run cn 1, run mn 36, run cn 1, run so 8, run mn 1, run so 6, run cn 1, run so 2, run po 5,
   run so 4, run po 2, run cn 37, run lo 43, run mc 2, run mn 4, run mc 1, run mn 6, run mc 1,
   run mn 2, run mc 2, run mn 2, run lo 1, run nd 10, run po 6, run lo 6, run mc 2, run mn 2,
   run lo 4, run mn 3, run lo 1, run mc 3, run lo 2, run mc 7, run lo 3, run mn 4, run lo 13,
   run mn 1, run mc 2, run mn 2, run mc 6, run mn 1, run lo 1, run mc 1, run nd 10, run mc 3,
   run mn 1, run so 2, run lu 38, run cn 1, run lu 1, run cn 5, run lu 1, run cn 2, run ll 43,
   run po 1, run lm 1, run ll 3, run lo 329, run cn 1, run lo 4, run cn 2, run lo 7, run cn 1,
   run lo 1, run cn 1, run lo 4, run cn 2, run lo 41, run cn 1, run lo 4, run cn 2, run lo 33,
   run cn 1, run lo 4, run cn 2, run lo 7, run cn 1]

/-- Part 3 of the category runs. -/
private def runs3 : List Run :=
  [run lo 1, run cn 1, run lo 4, run cn 2, run lo 15, run cn 1, run lo 57, run cn 1, run lo 4,
   run cn 2, run lo 67, run cn 2, run mn 3, run po 9, run no 20, run cn 3, run lo 16, run so 10,
   run cn 6, run lu 86, run cn 2, run ll 6, run cn 2, run pd 1, run lo 620, run so 1, run po 1,
   run lo 17, run zs 1, run lo 26, run ps 1, run pe 1, run cn 3, run lo 75, run po 3, run nl 3,
   run lo 8, run cn 7, run lo 18, run mn 3, run mc 1, run cn 9, run lo 19, run mn 2, run mc 1,
   run po 2, run cn 9, run lo 18, run mn 2, run cn 12, run lo 13, run cn 1, run lo 3, run cn 1,
   run mn 2, run cn 12, run lo 52, run mn 2, run mc 1, run mn 7, run mc 8, run mn 1, run mc 2,
   run mn 11, run po 3, run lm 1, run po 3, run sc 1, run lo 1, run mn 1, run cn 2, run nd 10,
   run cn 6, run no 10, run cn 6, run po 6, run pd 1, run po 4, run mn 3, run cf 1, run mn 1,
   run nd 10, run cn 6, run lo 35, run lm 1, run lo 53, run cn 7, run lo 5, run mn 2, run lo 34,
   run mn 1, run lo 1, run cn 5, run lo 70, run cn 10, run lo 31, run cn 1, run mn 3, run mc 4,
   run mn 2, run mc 3, run cn 4, run mc 2, run mn 1, run mc 6, run mn 3, run cn 4, run so 1,
   run cn 3, run po 2, run nd 10, run lo 30, run cn 2, run lo 5, run cn 11, run lo 44, run cn 4,
   run lo 26, run cn 6, run nd 10, run no 1, run cn 3, run so 34, run lo 23, run mn 2, run mc 2,
   run mn 1, run cn 2, run po 2, run lo 53, run mc 1, run mn 1, run mc 1, run mn 7, run cn 1,
   run mn 1, run mc 1, run mn 1, run mc 2, run mn 8, run mc 6, run mn 10, run cn 2, run mn 1,
   run nd 10, run cn 6, run nd 10, run cn 6, run po 7, run lm 1, run po 6, run cn 2, run mn 14,
   run me 1, run mn 16, run cn 49, run mn 4, run mc 1, run lo 47, run mn 1, run mc 1, run mn 5,
   run mc 1, run mn 1, run mc 5, run mn 1, run mc 2, run lo 8, run cn 3, run nd 10, run po 7,
   run so 10, run mn 9, run so 9, run po 2, run cn 1, run mn 2, run mc 1, run lo 30, run mc 1,
   run mn 4, run mc 2, run mn 2, run mc 1, run mn 3, run lo 2, run nd 10, run lo 44, run mn 1,
   run mc 1, run mn 2, run mc 3, run mn 1, run mc 1, run mn 3, run mc 2, run cn 8, run po 4,
   run lo 36, run mc 8, run mn 8, run mc 2, run mn 2, run cn 3, run po 5, run nd 10, run cn 3,
   run lo 3, run nd 10, run lo 30, run lm 6, run po 2, run ll 9, run cn 7, run lu 43, run cn 2,
   run lu 3, run po 8, run cn 8, run mn 3, run po 1, run mn 13, run mc 1, run mn 7, run lo 4,
   run mn 1, run lo 6, run mn 1, run lo 2, run mc 1, run mn 2, run lo 1, run cn 5, run ll 44,
   run lm 63, run ll 13, run lm 1, run ll 34, run lm 37, run mn 64, pairs lu ll 74, run lu 1,
   run ll 9, pairs lu ll 48, run lu 1, run ll 9, run lu 8, run ll 6, run cn 2, run lu 6, run cn 2,
   run ll 8, run lu 8, run ll 8, run lu 8, run ll 6, run cn 2, run lu 6, run cn 2, run ll 8,
   pairs cn lu 4, run ll 8, run lu 8, run ll 14, run cn 2, run ll 8, run lt 8, run ll 8, run lt 8,
   run ll 8, run lt 8, run ll 5, run cn 1, run ll 2, run lu 4, run lt 1, run sk 1, run ll 1,
   run sk 3, run ll 3, run cn 1, run ll 2, run lu 4, run lt 1, run sk 3, run ll 4, run cn 2,
   run ll 2, run lu 4, run cn 1, run sk 3, run ll 8, run lu 5, run sk 3, run cn 2, run ll 3,
   run cn 1, run ll 2, run lu 4, run lt 1, run sk 2, run cn 1, run zs 11, run cf 5, run pd 6,
   run po 2, run pi 1, run pf 1, run ps 1, run pi 2, run pf 1, run ps 1, run pi 1, run po 8,
   run zl 1, run zp 1, run cf 5, run zs 1, run po 9, run pi 1, run pf 1, run po 4, run pc 2,
   run po 3, run sm 1, run ps 1, run pe 1, run po 11, run sm 1, run po 1, run pc 1, run po 10,
   run zs 1, run cf 5, run cn 1, run cf 10, run no 1, run lm 1, run cn 2, run no 6, run sm 3,
   run ps 1, run pe 1, run lm 1, run no 10, run sm 3, run ps 1, run pe 1, run cn 1, run lm 13,
   run cn 3, run sc 33, run cn 15, run mn 13, run me 4, run mn 1, run me 3, run mn 12, run cn 15,
   run so 2, run lu 1, run so 4, run lu 1, run so 2, run ll 1, run lu 3, run ll 2, run lu 3,
   run ll 1, run so 1, run lu 1, run so 2, run sm 1, run lu 5, run so 6, pairs lu so 3, run lu 4,
   run so 1, run ll 1, run lu 4, run ll 1, run lo 4, run ll 1, run so 2, run ll 2, run lu 2,
   run sm 5, run lu 1, run ll 4, run so 1, run sm 1, run so 2, run ll 1, run so 1, run no 16,
   run nl 35, run lu 1, run ll 1, run nl 4, run no 1]

/-- Part 4 of the category runs. -/
private def runs4 : List Run :=
  [run so 2, run cn 4, run sm 5, run so 5, run sm 2, run so 4, run sm 1, run so 2, run sm 1,
   run so 2, run sm 1, run so 7, run sm 1, run so 31, run sm 2, run so 2, run sm 1, run so 1,
   run sm 1, run so 31, run sm 268, run so 8, pairs ps pe 2, run so 20, run sm 2, run so 7,
   run ps 1, run pe 1, run so 81, run sm 1, run so 30, run sm 25, run so 40, run sm 6, run so 69,
   run cn 25, run so 11, run cn 21, run no 60, run so 78, run no 22, run so 183, run sm 1, run so 9,
   run sm 1, run so 54, run sm 8, run so 111, run sm 1, run so 248, pairs ps pe 7, run no 30,
   run so 44, run sm 5, run ps 1, run pe 1, run sm 31, pairs ps pe 5, run sm 16, run so 256,
   run sm 131, pairs ps pe 11, run sm 63, pairs ps pe 2, run sm 32, run ps 1, run pe 1, run sm 258,
   run so 48, run sm 21, run so 2, run sm 6, run so 39, run cn 2, run so 32, run cn 1, run so 105,
   run lu 48, run ll 48, run lu 1, run ll 1, run lu 3, run ll 2, pairs lu ll 3, run lu 4, run ll 1,
   run lu 1, run ll 2, run lu 1, run ll 6, run lm 2, run lu 3, pairs ll lu 49, run ll 2, run so 6,
   pairs lu ll 2, run mn 3, run lu 1, run ll 1, run cn 5, run po 4, run no 1, run po 2, run ll 38,
   run cn 1, run ll 1, run cn 5, run ll 1, run cn 2, run lo 56, run cn 7, run lm 1, run po 1,
   run cn 14, run mn 1, run lo 23, run cn 9, run lo 7, run cn 1, run lo 7, run cn 1, run lo 7,
   run cn 1, run lo 7, run cn 1, run lo 7, run cn 1, run lo 7, run cn 1, run lo 7, run cn 1,
   run lo 7, run cn 1, run mn 32, run po 2, pairs pi pf 2, run po 3, run pi 1, run pf 1, run po 1,
   run pi 1, run pf 1, run po 9, run pd 1, run po 2, run pd 1, run po 1, run pi 1, run pf 1,
   run po 2, run pi 1, run pf 1, pairs ps pe 4, run po 5, run lm 1, run po 10, run pd 2, run po 4,
   run pd 1, run po 1, run ps 1, run po 13, run so 2, run po 3, pairs ps pe 4, run pd 1, run cn 34,
   run so 26, run cn 1, run so 89, run cn 12, run so 214, run cn 26, run so 12, run cn 4, run zs 1,
   run po 3, run so 1, run lm 1, run lo 1, run nl 1, pairs ps pe 5, run so 2, pairs ps pe 4,
   run pd 1, run ps 1, run pe 2, run so 1, run nl 9, run mn 4, run mc 2, run pd 1, run lm 5,
   run so 2, run nl 3, run lm 1, run lo 1, run po 1, run so 2, run cn 1, run lo 86, run cn 2,
   run mn 2, run sk 2, run lm 2, run lo 1, run pd 1, run lo 90, run po 1, run lm 3, run lo 1,
   run cn 5, run lo 43, run cn 1, run lo 94, run cn 1, run so 2, run no 4, run so 10, run lo 32,
   run so 36, run cn 12, run lo 16, run so 31, run cn 1, run no 10, run so 30, run no 8, run so 1,
   run no 15, run so 32, run no 10, run so 39, run no 15, run so 320, run lo 6592, run so 64,
   run lo 21013, run lm 1, run lo 1143, run cn 3, run so 55, run cn 9, run lo 40, run lm 6,
   run po 2, run lo 268, run lm 1, run po 3, run lo 16, run nd 10, run lo 2, run cn 20,
   pairs lu ll 23, run lo 1, run mn 1, run me 3, run po 1, run mn 10, run po 1, run lm 1,
   pairs lu ll 14, run lm 2, run mn 2, run lo 70, run nl 10, run mn 2, run po 6, run cn 8,
   run sk 23, run lm 9, run sk 2, pairs lu ll 6, run lu 1, run ll 3, pairs lu ll 31, run lm 1,
   run ll 8, pairs lu ll 2, run lu 2, pairs ll lu 4, run ll 1, run lm 1, run sk 2, pairs lu ll 2,
   run lo 1, run lu 1, run ll 1, run lu 1, run ll 3, pairs lu ll 10, run lu 5, run ll 1, run lu 5,
   pairs ll lu 7, run ll 1, run lu 4, run ll 1, run lu 1, run ll 1, run cn 5, run lu 1,
   pairs ll cn 2, pairs ll lu 2, run ll 1, run cn 24, run lm 3, run lu 1, run ll 1, run lo 1,
   run lm 2, run ll 1, run lo 7, run mn 1, run lo 3, run mn 1, run lo 4, run mn 1, run lo 23,
   run mc 2, run mn 2, run mc 1, run so 4, run mn 1, run cn 3, run no 6, run so 2, run sc 1,
   run so 1, run cn 6, run lo 52, run po 4, run cn 8, run mc 2, run lo 50, run mc 16, run mn 2,
   run cn 8, run po 2, run nd 10, run cn 6, run mn 18, run lo 6, run po 3, run lo 1, run po 1,
   run lo 2, run mn 1, run nd 10, run lo 28, run mn 8, run po 2, run lo 23, run mn 11, run mc 2,
   run cn 11, run po 1, run lo 29, run cn 3, run mn 3, run mc 1, run lo 47, run mn 1, run mc 2,
   run mn 4, run mc 2, run mn 2, run mc 3, run po 13, run cn 1, run lm 1, run nd 10, run cn 4,
   run po 2, run lo 5, run mn 1, run lm 1, run lo 9, run nd 10, run lo 5, run cn 1, run lo 41,
   run mn 6, run mc 2, run mn 2, run mc 2, run mn 2, run cn 9, run lo 3, run mn 1, run lo 8,
   run mn 1, run mc 1, run cn 2, run nd 10, run cn 2, run po 4, run lo 16, run lm 1, run lo 6]

/-- Part 5 of the category runs. -/
private def runs5 : List Run :=
  [run so 3, run lo 1, run mc 1, run mn 1, run mc 1, run lo 50, run mn 1, run lo 1, run mn 3,
   run lo 2, run mn 2, run lo 5, run mn 2, run lo 1, run mn 1, run lo 1, run cn 24, run lo 2,
   run lm 1, run po 2, run lo 11, run mc 1, run mn 2, run mc 2, run po 2, run lo 1, run lm 2,
   run mc 1, run mn 1, run cn 10, run lo 6, run cn 2, run lo 6, run cn 2, run lo 6, run cn 9,
   run lo 7, run cn 1, run lo 7, run cn 1, run ll 43, run sk 1, run lm 4, run ll 9, run lm 1,
   run sk 2, run cn 4, run ll 80, run lo 35, run mc 2, run mn 1, run mc 2, run mn 1, run mc 2,
   run po 1, run mc 1, run mn 1, run cn 2, run nd 10, run cn 6, run lo 11172, run cn 12, run lo 23,
   run cn 4, run lo 49, run cn 4, run cs 2048, run co 6400, run lo 366, run cn 2, run lo 106,
   run cn 38, run ll 7, run cn 12, run ll 5, run cn 5, run lo 1, run mn 1, run lo 10, run sm 1,
   run lo 13, run cn 1, run lo 5, run cn 1, run lo 1, run cn 1, run lo 2, run cn 1, run lo 2,
   run cn 1, run lo 108, run sk 17, run cn 16, run lo 363, run pe 1, run ps 1, run so 16, run lo 64,
   run cn 2, run lo 54, run cn 7, run so 1, run cn 32, run lo 12, run sc 1, run so 3, run mn 16,
   run po 7, run ps 1, run pe 1, run po 1, run cn 6, run mn 16, run po 1, run pd 2, run pc 2,
   pairs ps pe 8, run po 2, run ps 1, run pe 1, run po 4, run pc 3, run po 3, run cn 1, run po 4,
   run pd 1, pairs ps pe 3, run po 3, run sm 1, run pd 1, run sm 3, run cn 1, run po 1, run sc 1,
   run po 2, run cn 4, run lo 5, run cn 1, run lo 135, run cn 2, run cf 1, run cn 1, run po 3,
   run sc 1, run po 3, run ps 1, run pe 1, run po 1, run sm 1, run po 1, run pd 1, run po 2,
   run nd 10, run po 2, run sm 3, run po 2, run lu 26, run ps 1, run po 1, run pe 1, run sk 1,
   run pc 1, run sk 1, run ll 26, run ps 1, run sm 1, run pe 1, run sm 1, run ps 1, run pe 1,
   run po 1, run ps 1, run pe 1, run po 2, run lo 10, run lm 1, run lo 45, run lm 2, run lo 31,
   run cn 3, run lo 6, run cn 2, run lo 6, run cn 2, run lo 6, run cn 2, run lo 3, run cn 3,
   run sc 2, run sm 1, run sk 1, run so 1, run sc 2, run cn 1, run so 1, run sm 4, run so 2,
   run cn 10, run cf 3, run so 2, run cn 2, run lo 12, run cn 1, run lo 26, run cn 1, run lo 19,
   run cn 1, run lo 2, run cn 1, run lo 15, run cn 2, run lo 14, run cn 34, run lo 123, run cn 5,
   run po 3, run cn 4, run no 45, run cn 3, run so 9, run nl 53, run no 4, run so 17, run no 2,
   run so 3, run cn 1, run so 13, run cn 3, run so 1, run cn 47, run so 45, run mn 1, run cn 130,
   run lo 29, run cn 3, run lo 49, run cn 15, run mn 1, run no 27, run cn 4, run lo 32, run no 4,
   run cn 9, run lo 20, run nl 1, run lo 8, run nl 1, run cn 5, run lo 38, run mn 5, run cn 5,
   run lo 30, run cn 1, run po 1, run lo 36, run cn 4, run lo 8, run po 1, run nl 5, run cn 42,
   run lu 40, run ll 40, run lo 78, run cn 2, run nd 10, run cn 6, run lu 36, run cn 4, run ll 36,
   run cn 4, run lo 40, run cn 8, run lo 52, run cn 11, run po 1, run lu 11, run cn 1, run lu 15,
   run cn 1, run lu 7, run cn 1, run lu 2, run cn 1, run ll 11, run cn 1, run ll 15, run cn 1,
   run ll 7, run cn 1, run ll 2, run cn 67, run lo 311, run cn 9, run lo 22, run cn 10, run lo 8,
   run cn 24, run lm 6, run cn 1, run lm 42, run cn 1, run lm 9, run cn 69, run lo 6, run cn 2,
   run lo 1, run cn 1, run lo 44, run cn 1, run lo 2, run cn 3, run lo 1, run cn 2, run lo 23,
   run cn 1, run po 1, run no 8, run lo 23, run so 2, run no 7, run lo 31, run cn 8, run no 9,
   run cn 48, run lo 19, run cn 1, run lo 2, run cn 5, run no 5, run lo 22, run no 6, run cn 3,
   run po 1, run lo 26, run cn 5, run po 1, run cn 64, run lo 56, run cn 4, run no 2, run lo 2,
   run no 16, run cn 2, run no 46, run lo 1, run mn 3, run cn 1, run mn 2, run cn 5, run mn 4,
   run lo 4, run cn 1, run lo 3, run cn 1, run lo 29, run cn 2, run mn 3, run cn 4, run mn 1,
   run no 9, run cn 7, run po 9, run cn 7, run lo 29, run no 2, run po 1, run lo 29, run no 3,
   run cn 32, run lo 8, run so 1, run lo 28, run mn 2, run cn 4, run no 5, run po 7, run cn 9,
   run lo 54, run cn 3, run po 7, run lo 22, run cn 2, run no 8, run lo 19, run cn 5, run no 8,
   run lo 18, run cn 7, run po 4, run cn 12, run no 7, run cn 80, run lo 73, run cn 55, run lu 51,
   run cn 13, run ll 51, run cn 7, run no 6, run lo 36]

/-- Part 6 of the category runs. -/
private def runs6 : List Run :=
  [run mn 4, run cn 8, run nd 10, run cn 294, run no 31, run cn 1, run lo 42, run cn 1, run mn 2,
   run pd 1, run cn 2, run lo 2, run cn 75, run mn 3, run lo 29, run no 10, run lo 1, run cn 8,
   run lo 22, run mn 11, run no 4, run po 5, run cn 22, run lo 18, run mn 4, run po 4, run cn 38,
   run lo 21, run no 7, run cn 20, run lo 23, run cn 9, run mc 1, run mn 1, run mc 1, run lo 53,
   run mn 15, run po 7, run cn 4, run no 20, run nd 10, run mn 1, run lo 2, run mn 2, run lo 1,
   run cn 9, run mn 3, run mc 1, run lo 45, run mc 3, run mn 4, run mc 2, run mn 2, run po 2,
   run cf 1, run po 4, run mn 1, run cn 10, run cf 1, run cn 2, run lo 25, run cn 7, run nd 10,
   run cn 6, run mn 3, run lo 36, run mn 5, run mc 1, run mn 8, run cn 1, run nd 10, run po 4,
   run lo 1, run mc 2, run lo 1, run cn 8, run lo 35, run mn 1, run po 2, run lo 1, run cn 9,
   run mn 2, run mc 1, run lo 48, run mc 3, run mn 9, run mc 2, run lo 4, run po 4, run mn 4,
   run po 1, run mc 1, run mn 1, run nd 10, run lo 1, run po 1, run lo 1, run po 3, run cn 1,
   run no 20, run cn 11, run lo 18, run cn 1, run lo 25, run mc 3, run mn 3, run mc 2, run mn 1,
   run mc 1, run mn 2, run po 6, run mn 1, run lo 2, run mn 1, run cn 62, run lo 7, run cn 1,
   run lo 1, run cn 1, run lo 4, run cn 1, run lo 15, run cn 1, run lo 10, run po 1, run cn 6,
   run lo 47, run mn 1, run mc 3, run mn 8, run cn 5, run nd 10, run cn 6, run mn 2, run mc 2,
   run cn 1, run lo 8, run cn 2, run lo 2, run cn 2, run lo 22, run cn 1, run lo 7, run cn 1,
   run lo 2, run cn 1, run lo 5, run cn 1, run mn 2, run lo 1, run mc 2, run mn 1, run mc 4,
   run cn 2, run mc 2, run cn 2, run mc 3, run cn 2, run lo 1, run cn 6, run mc 1, run cn 5,
   run lo 5, run mc 2, run cn 2, run mn 7, run cn 3, run mn 5, run cn 139, run lo 53, run mc 3,
   run mn 8, run mc 2, run mn 3, run mc 1, run mn 1, run lo 4, run po 5, run nd 10, run po 2,
   run cn 1, run po 1, run mn 1, run lo 3, run cn 30, run lo 48, run mc 3, run mn 6, run mc 1,
   run mn 1, run mc 4, run mn 2, run mc 1, run mn 2, run lo 2, run po 1, run lo 1, run cn 8,
   run nd 10, run cn 166, run lo 47, run mc 3, run mn 4, run cn 2, run mc 4, run mn 2, run mc 1,
   run mn 2, run po 23, run lo 4, run mn 2, run cn 34, run lo 48, run mc 3, run mn 8, run mc 2,
   run mn 1, run mc 1, run mn 2, run po 3, run lo 1, run cn 11, run nd 10, run cn 6, run po 13,
   run cn 19, run lo 43, run mn 1, run mc 1, run mn 1, run mc 2, run mn 6, run mc 1, run mn 1,
   run lo 1, run po 1, run cn 6, run nd 10, run cn 54, run lo 27, run cn 2, run mn 3, run mc 2,
   run mn 4, run mc 1, run mn 5, run cn 4, run nd 10, run no 2, run po 3, run so 1, run lo 7,
   run cn 185, run lo 44, run mc 3, run mn 9, run mc 1, run mn 2, run po 1, run cn 100, run lu 32,
   run ll 32, run nd 10, run no 9, run cn 12, run lo 8, run cn 2, run lo 1, run cn 2, run lo 8,
   run cn 1, run lo 2, run cn 1, run lo 24, run mc 6, run cn 1, run mc 2, run cn 2, run mn 2,
   run mc 1, run mn 1, pairs lo mc 2, run mn 1, run po 3, run cn 9, run nd 10, run cn 70, run lo 8,
   run cn 2, run lo 39, run mc 3, run mn 4, run cn 2, run mn 2, run mc 4, run mn 1, run lo 1,
   run po 1, run lo 1, run mc 1, run cn 27, run lo 1, run mn 10, run lo 40, run mn 6, run mc 1,
   run lo 1, run mn 4, run po 8, run mn 1, run cn 8, run lo 1, run mn 6, run mc 2, run mn 3,
   run lo 46, run mn 13, run mc 1, run mn 2, run po 3, run lo 1, run po 5, run cn 13, run lo 73,
   run cn 7, run po 10, run cn 246, run lo 9, run cn 1, run lo 37, run mc 1, run mn 7, run cn 1,
   run mn 6, run mc 1, run mn 1, run lo 1, run po 5, run cn 10, run nd 10, run no 19, run cn 3,
   run po 2, run lo 30, run cn 2, run mn 22, run cn 1, run mc 1, run mn 7, run mc 1, run mn 2,
   run mc 1, run mn 2, run cn 73, run lo 7, run cn 1, run lo 2, run cn 1, run lo 38, run mn 6,
   run cn 3, run mn 1, run cn 1, run mn 2, run cn 1, run mn 7, run lo 1, run mn 1, run cn 8,
   run nd 10, run cn 6, run lo 6, run cn 1, run lo 2, run cn 1, run lo 32, run mc 5, run cn 1,
   run mn 2, run cn 1, run mc 2, run mn 1, run mc 1, run mn 1, run lo 1, run cn 7, run nd 10,
   run cn 310, run lo 19, run mn 2, run mc 2, run po 2, run cn 7, run mn 2, run lo 1, run mc 1,
   run lo 13, run cn 1, run lo 34, run mc 2]

/-- Part 7 of the category runs. -/
private def runs7 : List Run :=
  [run mn 5, run cn 3, run mc 2, run mn 1, run mc 1, run mn 1, run po 13, run nd 10, run cn 86,
   run lo 1, run cn 15, run no 21, run so 8, run sc 4, run so 17, run cn 13, run po 1, run lo 922,
   run cn 102, run nl 111, run cn 1, run po 5, run cn 11, run lo 196, run cn 2636, run lo 97,
   run po 2, run cn 13, run lo 1072, run cf 16, run mn 1, run lo 6, run mn 15, run cn 4010,
   run lo 583, run cn 8633, run lo 569, run cn 7, run lo 31, run cn 1, run nd 10, run cn 4,
   run po 2, run lo 79, run cn 1, run nd 10, run cn 6, run lo 30, run cn 2, run mn 5, run po 1,
   run cn 10, run lo 48, run mn 7, run po 5, run so 4, run lm 4, run po 1, run so 1, run cn 10,
   run nd 10, run cn 1, run no 7, run cn 1, run lo 21, run cn 5, run lo 19, run cn 688, run lu 32,
   run ll 32, run no 23, run po 4, run cn 101, run lo 75, run cn 4, run mn 1, run lo 1, run mc 55,
   run cn 7, run mn 4, run lm 13, run cn 64, run lm 2, run po 1, run lm 1, run mn 1, run cn 11,
   run mc 2, run cn 14, run lo 6136, run cn 8, run lo 1238, run cn 42, run lo 9, run cn 8935,
   run lm 4, run cn 1, run lm 7, run cn 1, run lm 2, run cn 1, run lo 291, run cn 15, run lo 1,
   run cn 29, run lo 3, run cn 2, run lo 1, run cn 14, run lo 4, run cn 8, run lo 396, run cn 2308,
   run lo 107, run cn 5, run lo 13, run cn 3, run lo 9, run cn 7, run lo 10, run cn 2, run so 1,
   run mn 2, run po 1, run cf 4, run cn 4700, run mn 46, run cn 2, run mn 23, run cn 9, run so 116,
   run cn 60, run so 246, run cn 10, run so 39, run cn 2, run so 60, run mc 2, run mn 3, run so 3,
   run mc 6, run cf 8, run mn 8, run so 2, run mn 7, run so 30, run mn 4, run so 61, run cn 21,
   run so 66, run mn 3, run so 1, run cn 122, run no 20, run cn 12, run no 20, run cn 12, run so 87,
   run cn 9, run no 25, run cn 135, run lu 26, run ll 26, run lu 26, run ll 7, run cn 1, run ll 18,
   run lu 26, run ll 26, run lu 1, run cn 1, run lu 2, run cn 2, run lu 1, run cn 2, run lu 2,
   run cn 2, run lu 4, run cn 1, run lu 8, run ll 4, run cn 1, run ll 1, run cn 1, run ll 7,
   run cn 1, run ll 11, run lu 26, run ll 26, run lu 2, run cn 1, run lu 4, run cn 2, run lu 8,
   run cn 1, run lu 7, run cn 1, run ll 26, run lu 2, run cn 1, run lu 4, run cn 1, run lu 5,
   run cn 1, run lu 1, run cn 3, run lu 7, run cn 1, run ll 26, run lu 26, run ll 26, run lu 26,
   run ll 26, run lu 26, run ll 26, run lu 26, run ll 26, run lu 26, run ll 26, run lu 26,
   run ll 28, run cn 2, run lu 25, run sm 1, run ll 25, run sm 1, run ll 6, run lu 25, run sm 1,
   run ll 25, run sm 1, run ll 6, run lu 25, run sm 1, run ll 25, run sm 1, run ll 6, run lu 25,
   run sm 1, run ll 25, run sm 1, run ll 6, run lu 25, run sm 1, run ll 25, run sm 1, run ll 6,
   run lu 1, run ll 1, run cn 2, run nd 50, run so 512, run mn 55, run so 4, run mn 50, run so 8,
   run mn 1, run so 14, run mn 1, run so 2, run po 5, run cn 15, run mn 5, run cn 1, run mn 15,
   run cn 1104, run ll 10, run lo 1, run ll 20, run cn 6, run ll 6, run cn 213, run mn 7, run cn 1,
   run mn 17, run cn 2, run mn 7, run cn 1, run mn 2, run cn 1, run mn 5, run cn 5, run lm 62,
   run cn 33, run mn 1, run cn 112, run lo 45, run cn 3, run mn 7, run lm 7, run cn 2, run nd 10,
   run cn 4, run lo 1, run so 1, run cn 320, run lo 30, run mn 1, run cn 17, run lo 44, run mn 4,
   run nd 10, run cn 5, run sc 1, run cn 464, run lo 27, run lm 1, run mn 4, run nd 10, run cn 742,
   run lo 7, run cn 1, run lo 4, run cn 1, run lo 2, run cn 1, run lo 15, run cn 1, run lo 197,
   run cn 2, run no 9, run mn 7, run cn 41, run lu 34, run ll 34, run mn 7, run lm 1, run cn 4,
   run nd 10, run cn 4, run po 2, run cn 785, run no 59, run so 1, run no 3, run sc 1, run no 4,
   run cn 76, run no 45, run so 1, run no 15, run cn 194, run lo 4, run cn 1, run lo 27, run cn 1,
   run lo 2, run cn 1, run lo 1, run cn 2, run lo 1, run cn 1, run lo 10, run cn 1, run lo 4,
   pairs cn lo 2, run cn 6, run lo 1, run cn 4, pairs lo cn 3, run lo 3, run cn 1, run lo 2,
   run cn 1, run lo 1, run cn 2, pairs lo cn 5, run lo 2, run cn 1, run lo 1, run cn 2, run lo 4,
   run cn 1, run lo 7, run cn 1, run lo 4, run cn 1, run lo 4, run cn 1, run lo 1, run cn 1,
   run lo 10, run cn 1, run lo 17, run cn 5, run lo 3, run cn 1, run lo 5, run cn 1, run lo 17,
   run cn 52, run sm 2, run cn 270, run so 44, run cn 4, run so 100, run cn 12, run so 15, run cn 2,
   run so 15]

/-- Part 8 of the category runs. -/
private def runs8 : List Run :=
  [run cn 1, run so 15, run cn 1, run so 37, run cn 10, run no 13, run so 161, run cn 56, run so 29,
   run cn 13, run so 44, run cn 4, run so 9, run cn 7, run so 2, run cn 14, run so 6, run cn 154,
   run so 251, run sk 5, run so 728, run cn 4, run so 17, run cn 3, run so 13, run cn 3, run so 119,
   run cn 4, run so 95, run cn 6, run so 12, run cn 4, run so 1, run cn 15, run so 12, run cn 4,
   run so 56, run cn 8, run so 10, run cn 6, run so 40, run cn 8, run so 30, run cn 2, run so 2,
   run cn 78, run so 340, run cn 12, run so 14, run cn 2, run so 13, run cn 3, run so 9, run cn 7,
   run so 46, run cn 1, run so 7, run cn 8, run so 14, run cn 4, run so 9, run cn 7, run so 9,
   run cn 7, run so 147, run cn 1, run so 55, run cn 37, run nd 10, run cn 1030, run lo 42720,
   run cn 32, run lo 4153, run cn 7, run lo 222, run cn 2, run lo 5762, run cn 14, run lo 7473,
   run cn 3103, run lo 542, run cn 1506, run lo 4939, run cn 5, run lo 4192, run cn 711761,
   run cf 1, run cn 30, run cf 96, run cn 128, run mn 240, run cn 65040, run co 65534, run cn 2,
   run co 65534, run cn 2]

/-- The categories of all code points in order. -/
def runs : List Run := runs1 ++ runs2 ++ runs3 ++ runs4 ++ runs5 ++ runs6 ++ runs7 ++ runs8

/-- The category of the code point `code` places into a list of runs. -/
def lookup : List Run → (code : Nat) → Category
  | [], _ => cn
  | .run c n :: rest, code => if code < n then c else lookup rest (code - n)
  | .pairs a b n :: rest, code =>
    if code < 2 * n then (if code % 2 = 0 then a else b) else lookup rest (code - 2 * n)

/-- The general category of a code point. -/
def ofCode (code : Nat) : Category := lookup runs code

/-- The two-letter name of a category. -/
def name : Category → Text
  | lu => "Lu" | ll => "Ll" | lt => "Lt" | lm => "Lm" | lo => "Lo"
  | mn => "Mn" | mc => "Mc" | me => "Me"
  | nd => "Nd" | nl => "Nl" | no => "No"
  | pc => "Pc" | pd => "Pd" | ps => "Ps" | pe => "Pe" | pi => "Pi" | pf => "Pf" | po => "Po"
  | sm => "Sm" | sc => "Sc" | sk => "Sk" | so => "So"
  | zs => "Zs" | zl => "Zl" | zp => "Zp"
  | cc => "Cc" | cf => "Cf" | cs => "Cs" | co => "Co" | cn => "Cn"

end Category

namespace Text

/-- The general category of a character. -/
def category (c : Char) : Category := Category.ofCode c.toNat

/-- A letter of any script. -/
def isLetter (c : Char) : Bool :=
  match category c with
  | .lu | .ll | .lt | .lm | .lo => true
  | _ => false

/-- An upper-case letter. -/
def isUpper (c : Char) : Bool := category c = .lu

/-- A lower-case letter. -/
def isLower (c : Char) : Bool := category c = .ll

/-- A decimal digit of any script. -/
def isDigit (c : Char) : Bool := category c = .nd

/-- A character with a visible form, or the ASCII space. -/
def isGraphic (c : Char) : Bool :=
  c = ' ' || match category c with
    | .zs | .zl | .zp | .cc | .cf | .cs | .co | .cn => false
    | _ => true

/-- White space: the ASCII controls 9 to 13, next line, and the separators. -/
def isBlank (c : Char) : Bool :=
  (9 ≤ c.toNat && c.toNat ≤ 13) || c.toNat = 0x85 || match category c with
    | .zs | .zl | .zp => true
    | _ => false

/-- Drops white space at both ends. -/
def trim (t : Text) : Text :=
  let blank : Symbol → Bool := fun s => isBlank s.shown
  let inner := (((t.symbols.dropWhile blank).reverse.dropWhile blank).reverse)
  inner.flatMap Symbol.bytes

end Text

end Accord
