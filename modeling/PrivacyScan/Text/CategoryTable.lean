/-!
The category of every code point, as runs in code point order: `u26` stands for the next 26 code
points, all capitals, and `ul3` for the next six, capitals and small letters in turn. The letters
are those of `PrivacyScan.Text.Category.ofLetter`. The table is that of Unicode 14.
-/

namespace PrivacyScan.Text

def categoryRuns : String :=
  "z33 x15 d10 x7 u26 x3 sps l26 x4 z34 x7 sxo x2 gxs x2 f2 sl x2 sfox f3 x u23 x u7 l24 x l8 ul27 u
l2 ul7 u l2 ul23 u2 lulu l3 u2 lul u2 l u3 l2 u4 l u2 l u3 l3 u2 l u2 lulul u2 lu l2 ul u2 l u3 lul
u2 l2 ou l3 o4 utlutlut lu8 l2 ul8 u l2 utlul u3 lu29 l7 u2 l u2 l2 ul u4 lu4 l69 o l27 m18 s4 m12
s14 m5 s7 msm s17 n112 ululmsul z2 m l3 xu z4 s2 ux u3 zuz u2 l u17 z u9 l35 u l2 u3 l3 ul11 u l5
ulxul u2 l2 u51 l48 ul17 x n5 e2 ul27 u2 lu6 l2 ul48 z u38 z2 m x6 l41 x2 z2 x3 z n45 xnx n2 x n2 xn
z8 o27 z4 o4 x2 z11 g6 x10 n11 xg x3 o32 m o10 n21 d10 x4 o2 n o99 xo n7 gx n6 m2 n2 x n4 o2 d10 o3
x2 o x14 zgon o30 n27 z2 o89 n11 o z14 d10 o33 n9 m2 x4 m z2 n x2 o22 n4 m n9 m n3 m n5 z2 x15 z o25
n3 z2 xz o11 z5 o24 s o6 z g2 z6 n8 o41 m n24 g n32 c o54 ncno c3 n8 c4 n c2 o n7 o10 n2 x2 d10 xm
o15 n c2 z o8 z2 o2 z2 o22 z o7 zo z3 o4 z2 no c3 n4 z2 c2 z2 c2 no z8 c z4 o2 z o3 n2 z2 d10 o2 x2
f6 x2 oxn z2 n2 cz o6 z4 o2 z2 o22 z o7 z o2 z o2 z o2 z2 nz c3 n2 z4 n2 z2 n3 z3 n z7 o4 zo z7 d10
n2 o3 nx z10 n2 cz o9 z o3 z o22 z o7 z o2 z o5 z2 no c3 n5 z n2 cz c2 n z2 o z15 o2 n2 z2 d10 x2 z7
o n6 zn c2 z o8 z2 o2 z2 o22 z o7 z o2 z o5 z2 nocnc n4 z2 c2 z2 c2 n z7 n2 c z4 o2 z o3 n2 z2 d10
xo f6 z10 noz o6 z3 o3 z o4 z3 o2 zoz o2 z3 o2 z3 o3 z3 o12 z4 c2 n c2 z3 c3 z c3 n z2 o z6 c z14
d10 f3 x8 z5 n c3 n o8 z o3 z o23 z o16 z2 no n3 c4 z n3 z n4 z7 n2 z o3 z2 o z2 o2 n2 z2 d10 z7 x
f7 xon c2 x o8 z o3 z o23 z o10 z o5 z2 nocn c5 zn c2 z c2 n2 z7 c2 z6 o2 z o2 n2 z2 d10 z o2 z13 n2
c2 o9 z o3 z o41 n2 o c3 n4 z c3 z c3 nox z4 o3 c f7 o3 n2 z2 d10 f9 x o6 zn c2 z o18 z3 o24 z o9 zo
z2 o7 z3 n z4 c3 n3 znz c8 z6 d10 z2 c2 x z12 o48 n o2 n7 z4 x o6 m n8 x d10 x2 z37 o2 zoz o5 z o24
zoz o10 n o2 n9 o z2 o5 zmz n6 z2 d10 z2 o4 z32 o x23 n2 x6 d10 f10 xn3 x4 c2 o8 z o36 z4 n14 c n5 x
n2 o5 n11 z n36 z x8 n x6 z x13 z37 o43 c2 n4 c n6 c n2 c2 n2 o d10 x6 o6 c2 n2 o4 n3 o c3 o2 c7 o3
n4 o13 n c2 n2 c6 noc d10 c3 n x2 u38 zu z5 u z2 l43 xm l3 o329 z o4 z2 o7 zoz o4 z2 o41 z o4 z2 o33
z o4 z2 o7 zoz o4 z2 o15 z o57 z o4 z2 o67 z2 n3 x9 f20 z3 o16 x10 z6 u86 z2 l6 z2 x o620 x2 o17 z
o26 x2 z3 o75 x3 r3 o8 z7 o18 n3 c z9 o19 n2 c x2 z9 o18 n2 z12 o13 z o3 z n2 z12 o52 n2 c n7 c8 n
c2 n11 x3 m x4 on z2 d10 z6 f10 z6 x11 n3 gn d10 z6 o35 m o53 z7 o5 n2 o34 no z5 o70 z10 o31 z n3 c4
n2 c3 z4 c2 n c6 n3 z4 x z3 x2 d10 o30 z2 o5 z11 o44 z4 o26 z6 d10 f z3 x34 o23 n2 c2 n z2 x2 o53
cnc n7 zncn c2 n8 c6 n10 z2 n d10 z6 d10 z6 x7 m x6 z2 n14 e n16 z49 n4 c o47 nc n5 cn c5 n c2 o8 z3
d10 x17 n9 x11 z n2 c o30 c n4 c2 n2 c n3 o2 d10 o44 nc n2 c3 nc n3 c2 z8 x4 o36 c8 n8 c2 n2 z3 x5
d10 z3 o3 d10 o30 m6 x2 l9 z7 u43 z2 u3 x8 z8 n3 x n13 c n7 o4 n o6 n o2 c n2 o z5 l44 m63 l13 m l34
m37 n64 ul74 u l9 ul48 u l9 u8 l6 z2 u6 z2 l8 u8 l8 u8 l6 z2 u6 z2 l8 zu4 l8 u8 l14 z2 l8 t8 l8 t8
l8 t8 l5 z l2 u4 tsl s3 l3 z l2 u4 t s3 l4 z2 l2 u4 z s3 l8 u5 s3 z2 l3 z l2 u4 t s2 z12 g5 x24 z2
g5 z x15 p2 x19 p x10 z g5 z g10 fm z2 f6 x5 m f10 x5 z m13 z3 x33 z15 n13 e4 n e3 n12 z15 x2 u x4 u
x2 l u3 l2 u3 lxu x3 u5 x6 ux3 u4 xl u4 l o4 l x2 l2 u2 x5 u l4 x4 lx f16 r35 ul r4 f x2 z4 x663 z25
x11 z21 f60 x78 f22 x630 f30 x992 z2 x32 z x105 u48 l48 ul u3 l2 ul3 u4 lu l2 u l6 m2 u3 lu49 l2 x6
ulul n3 ul z5 x4 f x2 l38 zl z5 l z2 o56 z7 mx z14 n o23 z9 o7 z o7 z o7 z o7 z o7 z o7 z o7 z o7 z
n32 x47 m x46 z34 x26 z x89 z12 x214 z26 x12 z5 x4 mor x25 r9 n4 c2 x m5 x2 r3 mo x3 z o86 z2 n2 s2
m2 ox o90 x m3 o z5 o43 z o94 z x2 f4 x10 o32 x36 z12 o16 x31 z f10 x30 f8 x f15 x32 f10 x39 f15
x320 o6592 x64 o21013 m o1143 z3 x55 z9 o40 m6 x2 o268 m x3 o16 d10 o2 z20 ul23 on e3 x n10 xm ul14
m2 n2 o70 r10 n2 x6 z8 s23 m9 s2 ul6 u l3 ul31 m l8 ulul u2 lu4 lm s2 ululoulu l3 ul10 u5 l u5 lu7 l
u4 lul z5 ulzlzlulul z24 m3 ulo m2 l o7 n o3 n o4 n o23 c2 n2 c x4 n z3 f6 x4 z6 o52 x4 z8 c2 o50
c16 n2 z8 x2 d10 z6 n18 o6 x3 ox o2 n d10 o28 n8 x2 o23 n11 c2 z11 x o29 z3 n3 c o47 n c2 n4 c2 n2
c3 x13 zm d10 z4 x2 o5 nm o9 d10 o5 z o41 n6 c2 n2 c2 n2 z9 o3 n o8 nc z2 d10 z2 x4 o16 m o6 x3 ocnc
o50 no n3 o2 n2 o5 n2 ono z24 o2 m x2 o11 c n2 c2 x2 o m2 cn z10 o6 z2 o6 z2 o6 z9 o7 z o7 z l43 s
m4 l9 m s2 z4 l80 o35 c2 n c2 n c2 xcn z2 d10 z6 o11172 z12 o23 z4 o49 z8452 o366 z2 o106 z38 l7 z12
l5 z5 on o10 x o13 z o5 zoz o2 z o2 z o108 s17 z16 o363 x18 o64 z2 o54 z7 x z32 o12 x4 n16 x10 z6
n16 x3 p2 x24 p3 x3 z x19 z x4 z4 o5 z o135 z2 gz x15 d10 x7 u26 x3 sps l26 x11 o10 m o45 m2 o31 z3
o6 z2 o6 z2 o6 z2 o3 z3 x3 s x3 z x7 z10 g3 x2 z2 o12 z o26 z o19 z o2 z o15 z2 o14 z34 o123 z5 x3
z4 f45 z3 x9 r53 f4 x17 f2 x3 z x13 z3 x z47 x45 n z130 o29 z3 o49 z15 n f27 z4 o32 f4 z9 o20 r o8 r
z5 o38 n5 z5 o30 zx o36 z4 o8 x r5 z42 u40 l40 o78 z2 d10 z6 u36 z4 l36 z4 o40 z8 o52 z11 x u11 z
u15 z u7 z u2 z l11 z l15 z l7 z l2 z67 o311 z9 o22 z10 o8 z24 m6 z m42 z m9 z69 o6 z2 oz o44 z o2
z3 o z2 o23 zx f8 o23 x2 f7 o31 z8 f9 z48 o19 z o2 z5 f5 o22 f6 z3 x o26 z5 x z64 o56 z4 f2 o2 f16
z2 f46 o n3 z n2 z5 n4 o4 z o3 z o29 z2 n3 z4 n f9 z7 x9 z7 o29 f2 x o29 f3 z32 o8 x o28 n2 z4 f5 x7
z9 o54 z3 x7 o22 z2 f8 o19 z5 f8 o18 z7 x4 z12 f7 z80 o73 z55 u51 z13 l51 z7 f6 o36 n4 z8 d10 z294
f31 z o42 z n2 x z2 o2 z78 o29 f10 o z8 o22 n11 f4 x5 z22 o18 n4 x4 z38 o21 f7 z20 o23 z9 cnc o53
n15 x7 z4 f20 d10 n o2 n2 o z9 n3 c o45 c3 n4 c2 n2 x2 g x4 n z10 g z2 o25 z7 d10 z6 n3 o36 n5 c n8
z d10 x4 o c2 o z8 o35 n x2 o z9 n2 c o48 c3 n9 c2 o4 x4 n4 xcn d10 oxo x3 z f20 z11 o18 z o25 c3 n3
c2 nc n2 x6 n z65 o7 zoz o4 z o15 z o10 x z6 o47 n c3 n8 z5 d10 z6 n2 c2 z o8 z2 o2 z2 o22 z o7 z o2
z o5 z n2 o c2 n c4 z2 c2 z2 c3 z2 o z6 c z5 o5 c2 z2 n7 z3 n5 z139 o53 c3 n8 c2 n3 cn o4 x5 d10 x2
zxn o3 z30 o48 c3 n6 cn c4 n2 c n2 o2 xo z8 d10 z166 o47 c3 n4 z2 c4 n2 c n2 x23 o4 n2 z34 o48 c3 n8
c2 nc n2 x3 o z11 d10 z6 x13 z19 o43 ncn c2 n6 cnox z6 d10 z54 o27 z2 n3 c2 n4 c n5 z4 d10 f2 x4 o7
z185 o44 c3 n9 c n2 x z100 u32 l32 d10 f9 z12 o8 z2 o z2 o8 z o2 z o24 c6 z c2 z2 n2 cnococn x3 z9
d10 z70 o8 z2 o39 c3 n4 z2 n2 c4 noxoc z27 o n10 o40 n6 co n4 x8 n z8 o n6 c2 n3 o46 n13 c n2 x3 o
x5 z13 o73 z263 o9 z o37 c n7 z n6 cno x5 z10 d10 f19 z3 x2 o30 z2 n22 zc n7 c n2 c n2 z73 o7 z o2 z
o38 n6 z3 nz n2 z n7 on z8 d10 z6 o6 z o2 z o32 c5 z n2 z c2 ncno z7 d10 z310 o19 n2 c2 x2 z183 o
z15 f21 x29 z13 x o922 z102 r111 z x5 z11 o196 z2636 o97 x2 z13 o1071 z g9 z4039 o583 z8633 o569 z7
o31 z d10 z4 x2 o79 z d10 z6 o30 z2 n5 x z10 o48 n7 x9 m4 x2 z10 d10 z f7 z o21 z5 o19 z688 u32 l32
f23 x4 z101 o75 z4 no c55 z7 n4 m13 z64 m2 xmn z11 c2 z14 o6136 z8 o1238 z42 o9 z8935 m4 z m7 z m2 z
o291 z45 o3 z17 o4 z8 o396 z2308 o107 z5 o13 z3 o9 z7 o10 z2 x n2 x g4 z4700 n46 z2 n23 z9 x116 z60
x246 z10 x39 z2 x60 c2 n3 x3 c6 g8 n8 x2 n7 x30 n4 x61 z21 x66 n3 x z154 f20 z12 x87 z9 f25 z135 u26
l26 u26 l7 z l18 u26 l26 uz u2 z2 u z2 u2 z2 u4 z u8 l4 zlz l7 z l11 u26 l26 u2 z u4 z2 u8 z u7 z
l26 u2 z u4 z u5 zu z3 u7 z l26 u26 l26 u26 l26 u26 l26 u26 l26 u26 l26 u26 l28 z2 u25 x l25 x l6
u25 x l25 x l6 u25 x l25 x l6 u25 x l25 x l6 u25 x l25 x l6 ul z2 d50 x512 n55 x4 n50 x8 n x14 n x7
z15 n5 z n15 z1104 l10 o l20 z225 n7 z n17 z2 n7 z n2 z n5 z213 o45 z3 n7 m7 z2 d10 z4 ox z320 o30 n
z17 o44 n4 d10 z5 x z1248 o7 z o4 z o2 z o15 z o197 z2 f9 n7 z41 u34 l34 n7 m z4 d10 z4 x2 z785 f59
x f3 x f4 z76 f45 x f15 z194 o4 z o27 z o2 zo z2 oz o10 z o4 zozo z6 o z4 oz3 o3 z o2 zo z2 oz5 o2
zo z2 o4 z o7 z o4 z o4 zoz o10 z o17 z5 o3 z o5 z o17 z52 x2 z270 x44 z4 x100 z12 x15 z2 x15 z x15
z x37 z10 f13 x161 z56 x29 z13 x44 z4 x9 z7 x2 z14 x6 z154 x251 s5 x728 z5 x16 z3 x13 z3 x116 z12
x89 z7 x12 z4 x z15 x12 z4 x56 z8 x10 z6 x40 z8 x30 z2 x2 z78 x340 z12 x14 z2 x5 z3 x5 z3 x7 z9 x29
z3 x11 z5 x6 z10 x10 z6 x8 z8 x7 z9 x147 z x55 z37 d10 z1030 o42720 z32 o4153 z7 o222 z2 o5762 z14
o7473 z3103 o542 z1506 o4939 z715958 g z30 g96 z128 n240 z196112"

/-- Code points with the property Uppercase that are no capital letters. -/
def otherUppercaseSet : String :=
  "2160-216F 24B6-24CF 1F130-1F149 1F150-1F169 1F170-1F189"

/-- Code points with the property Lowercase that are no small letters. -/
def otherLowercaseSet : String :=
  "AA BA 2B0-2B8 2C0-2C1 2E0-2E4 345 37A 1D2C-1D6A 1D78 1D9B-1DBF 2071 207F 2090-209C 2170-217F
24D0-24E9 2C7C-2C7D A69C-A69D A770 A7F8-A7F9 AB5C-AB5F 10780 10783-10785 10787-107B0 107B2-107BA"

end PrivacyScan.Text
