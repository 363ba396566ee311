namespace Covenant.Text

def expansionTable : String := String.intercalate " "
  ["4q 1 1 2p a 1 1 qk 4 1 1 33 5 6 2 1t lc 1t ld 1t le 1t lf 1t lk 1t lm 1 9 2 1v mf 1x lc 1x ld 1x le 1x lk 21 lc",
   "21 ld 21 le 21 lk 1 6 2 26 lf 27 lc 27 ld 27 le 27 lf 27 lk 2 5 2 2d lc 2d ld 2d le 2d lk 2h ld 2 6 2 2p lc 2p ld",
   "2p le 2p lf 2p lk 2p lm 1 9 2 2r mf 2t lc 2t ld 2t le 2t lk 2x lc 2x ld 2x le 2x lk 1 6 2 32 lf 33 lc 33 ld 33 le",
   "33 lf 33 lk 2 5 2 39 lc 39 ld 39 le 39 lk 3d ld 1 h 2 3d lk 1t lg 2p lg 1t li 2p li 1t mg 2p mg 1v ld 2r ld 1v le",
   "2r le 1v lj 2r lj 1v lo 2r lo 1w lo 2s lo 2 k 2 1x lg 2t lg 1x li 2t li 1x lj 2t lj 1x mg 2t mg 1x lo 2t lo 1z le",
   "2v le 1z li 2v li 1z lj 2v lj 1z mf 2v mf 20 le 2w le 2 9 2 21 lf 2x lf 21 lg 2x lg 21 li 2x li 21 mg 2x mg 21 lj",
   "1 6 2 21 22 2x 2y 22 le 2y le 23 mf 2z mf 1 8 2 24 ld 30 ld 24 mf 30 mf 24 lo 30 lo 24 53 30 53 2 7 2 26 ld 32 ld",
   "26 mf 32 mf 26 lo 32 lo jg 32 2 6 2 27 lg 33 lg 27 li 33 li 27 ln 33 ln 2 i 2 2a ld 36 ld 2a mf 36 mf 2a lo 36 lo",
   "2b ld 37 ld 2b le 37 le 2b mf 37 mf 2b lo 37 lo 2c mf 38 mf 2c lo 38 lo 2 n 2 2d lf 39 lf 2d lg 39 lg 2d li 39 li",
   "2d lm 39 lm 2d ln 39 ln 2d mg 39 mg 2f le 3b le 2h le 3d le 2h lk 2i ld 3e ld 2i lj 3e lj 2i lo 3e lo 0 1 1 37 w",
   "2 2 27 m3 33 m3 d 2 2 2d m3 39 m3 j 3 3 1w 2i lo 1w 3e lo 2s 3e lo 0 e 2 24 22 24 2y 30 2y 26 22 26 2y 32 2y 1t",
   "lo 2p lo 21 lo 2x lo 27 lo 33 lo 2d lo 39 lo 0 8 3 2d lk lg 39 lk lg 2d lk ld 39 lk ld 2d lk lo 39 lk lo 2d lk lc",
   "39 lk lc 1 4 3 1t lk lg 2p lk lg 1t lj lg 2p lj lg 0 2 2 5i lg 6e lg 2 6 2 1z lo 2v lo 23 lo 2z lo 27 mg 33 mg 0",
   "2 3 27 mg lg 33 mg lg 0 8 2 c7 lo ia lo 2y lo 1w 2i 1w 3e 2s 3e 1z ld 2v ld 2 2 2 26 lc 32 lc 0 2 3 1t lm ld 2p",
   "lm ld 0 w 2 5i ld 6e ld 60 ld 6w ld 1t lr 2p lr 1t lt 2p lt 1x lr 2t lr 1x lt 2t lt 21 lr 2x lr 21 lt 2x lt 27 lr",
   "33 lr 27 lt 33 lt 2a lr 36 lr 2a lt 36 lt 2d lr 39 lr 2d lt 39 lt 2b me 37 me 2c me 38 me 2 2 2 20 lo 2w lo 6 4 2",
   "1t lj 2p lj 1x mf 2t mf 0 4 3 27 lk lg 33 lk lg 27 lf lg 33 lf lg 0 2 2 27 lj 33 lj 0 2 3 27 lj lg 33 lj lg 0 2 2",
   "2h lg 3d lg 3g 9 1 2w h2 2y 36 hl hn ht 3b 3d 13 5 1 gz 30 37 3c id 2m 1 1 lv 0 1 2 lk ld 1b 1 1 jd h 1 2 pd ld 0",
   "1 1 53 0 3 2 ph ld pj ld pl ld 1 1 2 pr ld 1 2 2 px ld q1 ld 0 1 3 qh lk ld p 6 2 pl lk px lk q9 ld qd ld qf ld",
   "qh ld 0 1 3 qt lk ld p 5 2 qh lk qt lk qn ld qt ld qx ld 1 3 1 qa qg px 0 2 2 px ld px lk 0 2 1 qu qo p 1 1 qi 3",
   "2 1 pk qd 3 1 1 pv 6 2 2 t1 lc t1 lk 1 1 2 sz ld 3 1 2 sm lk 4 3 2 t6 ld t4 lc tf li a 1 2 t4 li v 1 2 u0 li m 2",
   "2 tx lc tx lk 1 1 2 tv ld 3 1 2 uu lk 4 3 2 u2 ld u0 lc ub li n 2 2 vo lr vp lr 21 2 2 t2 li ty li d 4 2 sw li ts",
   "li sw lk ts lk 2 2 2 t1 li tx li 2 6 2 yg lk yh lk t2 lk ty lk t3 lk tz lk 2 6 2 t4 lg u0 lg t4 lk u0 lk ta lk u6",
   "lk 2 c 2 yw lk yx lk tp lk ul lk tf lg ub lg tf lk ub lk tf ln ub ln tj lk uf lk 2 2 2 tn lk uj lk 3x 1 2 12d 136",
   "4a 5 2 17r 18z 17r 190 18o 190 17r 191 18q 190 26 4 2 17r 19w 18o 19w 1c7 19w 18q 19w 1z 1 2 1cl 190 1 1 2 1c1",
   "190 g 1 2 1ci 190 gl 1 2 1t4 1to 7 1 2 1tc 1to 2 1 2 1tf 1to z 8 2 1sl 1to 1sm 1to 1sn 1to 1ss 1to 1sx 1to 1sy",
   "1to 1t7 1to 1tb 1to 2z 2 2 1xj 1xa 1xj 1xz f 2 2 1wh 1x8 1wi 1x8 1 1 2 1wv 1x8 2b 1 2 20i 20s 2 1 2 20o 20s y 3 2",
   "1zq 20s 1zr 20s 1zw 20s 2 1 2 20b 20s 6h 1 2 287 28m 2 2 2 287 27y 287 28n f 2 2 275 27w 276 27w 1i 1 2 2aa 2c7",
   "1h 3 2 2bq 2bi 2br 2bi 2bq 2c7 3f 1 2 2fa 2fq 3b 1 2 2in 2j9 6 2 2 2iu 2j9 2iu 2ja 1 1 2 2iu 2iq 0 1 3 2iu 2iq",
   "2j9 3i 3 2 2me 2m6 2mf 2m6 2me 2mv 3x 1 2 2qh 2q2 1 1 2 2qh 2q7 0 1 3 2qh 2q7 2q2 0 1 2 2qh 2qn 2c 1 2 2tp 2sy 3j",
   "1 2 2x9 2wi 14 2 2 2wb 2vt 2wb 2w1 2t 1 2 30i 33r 9 1 2 30s 33r 4 1 2 30x 33r 4 1 2 312 33r 4 1 2 317 33r c 1 2",
   "30g 33p 9 1 2 31t 31u 1 2 2 31t 31w 33m 328 0 1 3 33m 31t 328 0 1 2 33n 328 0 1 3 33n 31t 328 7 1 2 31t 328 h 1 2",
   "32q 33r 9 1 2 330 33r 4 1 2 335 33r 4 1 2 33a 33r 4 1 2 33f 33r c 1 2 32o 33p 30 1 2 36t 372 5x 1 1 3bw 1zd 1 2",
   "5c5 5dh 1 1 2 5c7 5dh 1 1 2 5c9 5dh 1 1 2 5cb 5dh 1 1 2 5cd 5dh 3 1 2 5ch 5dh 14 1 2 5dm 5dh 1 1 2 5do 5dh 2 2 2",
   "5dq 5dh 5dr 5dh 1 1 2 5du 5dh dk 3 1 1t 5i 1u 3 1 1 b2 9 4 1 27 f6 28 2a 2 2 1 2f 2p 2 2 1 5qa 2q 2 1 1 gp 2 1 1",
   "2v 1 5 1 2z 31 97 33 gk 2 1 1 34 2 4 1 5r1 hb 3a 5r9 5 2 1 2x 36 4 1 1 qp f 1 1 u5 y 9 1 gi 2r gl 6o gs 2u gv gx",
   "h1 3 7 1 5tn il h9 5tx in hd hc 4 1 1 hk 2 1 1 bv 2 1 1 5r0 2 1 1 3e 3 1 1 qg 1s 8 2 1t md 2p md 1u lj 2q lj 1u",
   "mb 2q mb 1u mp 2q mp 0 2 3 1v mf ld 2r mf ld 0 a 2 1w lj 2s lj 1w mb 2s mb 1w mp 2s mp 1w mf 2s mf 1w ml 2s ml 0",
   "4 3 1x lg lc 2t lg lc 1x lg ld 2t lg ld 0 4 2 1x ml 2t ml 1x mo 2t mo 0 2 3 1x mf li 2t mf li 0 g 2 1y lj 2u lj",
   "1z lg 2v lg 20 lj 2w lj 20 mb 2w mb 20 lk 2w lk 20 mf 2w mf 20 mm 2w mm 21 mo 2x mo 0 2 3 21 lk ld 2x lk ld 0 8 2",
   "23 ld 2z ld 23 mb 2z mb 23 mp 2z mp 24 mb 30 mb 0 2 3 24 mb lg 30 mb lg 0 i 2 24 mp 30 mp 24 ml 30 ml 25 ld 31 ld",
   "25 lj 31 lj 25 mb 31 mb 26 lj 32 lj 26 mb 32 mb 26 mp 32 mp 26 ml 32 ml 0 8 3 27 lf ld 33 lf ld 27 lf lk 33 lf lk",
   "27 lg lc 33 lg lc 27 lg ld 33 lg ld 0 8 2 28 ld 34 ld 28 lj 34 lj 2a lj 36 lj 2a mb 36 mb 0 2 3 2a mb lg 36 mb lg",
   "0 6 2 2a mp 36 mp 2b lj 37 lj 2b mb 37 mb 0 6 3 2b ld lj 37 ld lj 2b lo lj 37 lo lj 2b mb lj 37 mb lj 0 e 2 2c lj",
   "38 lj 2c mb 38 mb 2c mp 38 mp 2c ml 38 ml 2d mc 39 mc 2d mo 39 mo 2d ml 39 ml 0 4 3 2d lf ld 39 lf ld 2d lg lk 39",
   "lg lk 0 w 2 2e lf 3a lf 2e mb 3a mb 2f lc 3b lc 2f ld 3b ld 2f lk 3b lk 2f lj 3b lj 2f mb 3b mb 2g lj 3c lj 2g lk",
   "3c lk 2h lj 3d lj 2i le 3e le 2i mb 3e mb 2i mp 3e mp 2w mp 38 lk 3b lm 3d lm 2p ji 37 lj 4 4 2 1t mb 2p mb 1t ll",
   "2p ll 0 k 3 1t le ld 2p le ld 1t le lc 2p le lc 1t le ll 2p le ll 1t le lf 2p le lf 1t mb le 2p mb le 1t li ld 2p",
   "li ld 1t li lc 2p li lc 1t li ll 2p li ll 1t li lf 2p li lf 1t mb li 2p mb li 0 6 2 1x mb 2t mb 1x ll 2t ll 1x lf",
   "2t lf 0 a 3 1x le ld 2t le ld 1x le lc 2t le lc 1x le ll 2t le ll 1x le lf 2t le lf 1x mb le 2t mb le 0 8 2 21 ll",
   "2x ll 21 mb 2x mb 27 mb 33 mb 27 ll 33 ll 0 k 3 27 le ld 33 le ld 27 le lc 33 le lc 27 le ll 33 le ll 27 le lf 33",
   "le lf 27 mb le 33 mb le 27 m3 ld 33 m3 ld 27 m3 lc 33 m3 lc 27 m3 ll 33 m3 ll 27 m3 lf 33 m3 lf 27 m3 mb 33 m3 mb",
   "0 4 2 2d mb 39 mb 2d ll 39 ll 0 a 3 2d m3 ld 39 m3 ld 2d m3 lc 39 m3 lc 2d m3 ll 39 m3 ll 2d m3 lf 39 m3 lf 2d m3",
   "mb 39 m3 mb 0 8 2 2h lc 3d lc 2h mb 3d mb 2h ll 3d ll 2h lf 3d lf 6 2 2 q9 lv q9 lw 0 6 3 q9 lv lc q9 lw lc q9 lv",
   "ld q9 lw ld q9 lv n6 q9 lw n6 0 2 2 pd lv pd lw 0 6 3 pd lv lc pd lw lc pd lv ld pd lw ld pd lv n6 pd lw n6 0 2 2",
   "qd lv qd lw 0 4 3 qd lv lc qd lw lc qd lv ld qd lw ld 2 2 2 ph lv ph lw 0 4 3 ph lv lc ph lw lc ph lv ld ph lw ld",
   "2 2 2 qf lv qf lw 0 6 3 qf lv lc qf lw lc qf lv ld qf lw ld qf lv n6 qf lw n6 0 2 2 pj lv pj lw 0 6 3 pj lv lc pj",
   "lw lc pj lv ld pj lw ld pj lv n6 pj lw n6 0 2 2 qh lv qh lw 0 6 3 qh lv lc qh lw lc qh lv ld qh lw ld qh lv n6 qh",
   "lw n6 0 2 2 pl lv pl lw 0 6 3 pl lv lc pl lw lc pl lv ld pl lw ld pl lv n6 pl lw n6 0 2 2 qn lv qn lw 0 4 3 qn lv",
   "lc qn lw lc qn lv ld qn lw ld 2 2 2 pr lv pr lw 0 4 3 pr lv lc pr lw lc pr lv ld pr lw ld 2 2 2 qt lv qt lw 0 6 3",
   "qt lv lc qt lw lc qt lv ld qt lw ld qt lv n6 qt lw n6 1 1 2 px lw 1 1 3 px lw lc 1 1 3 px lw ld 1 1 3 px lw n6 0",
   "2 2 qx lv qx lw 0 6 3 qx lv lc qx lw lc qx lv ld qx lw ld qx lv n6 qx lw n6 0 2 2 q1 lv q1 lw 0 6 3 q1 lv lc q1",
   "lw lc q1 lv ld q1 lw ld q1 lv n6 q1 lw n6 0 e 2 q9 lc q9 ld qd lc qd ld qf lc qf ld qh lc qh ld qn lc qn ld qt lc",
   "qt ld qx lc qx ld 2 2 3 q9 lv n9 q9 lw n9 0 6 4 q9 lv lc n9 q9 lw lc n9 q9 lv ld n9 q9 lw ld n9 q9 lv n6 n9 q9 lw",
   "n6 n9 0 2 3 pd lv n9 pd lw n9 0 6 4 pd lv lc n9 pd lw lc n9 pd lv ld n9 pd lw ld n9 pd lv n6 n9 pd lw n6 n9 0 2 3",
   "qf lv n9 qf lw n9 0 6 4 qf lv lc n9 qf lw lc n9 qf lv ld n9 qf lw ld n9 qf lv n6 n9 qf lw n6 n9 0 2 3 pj lv n9 pj",
   "lw n9 0 6 4 pj lv lc n9 pj lw lc n9 pj lv ld n9 pj lw ld n9 pj lv n6 n9 pj lw n6 n9 0 2 3 qx lv n9 qx lw n9 0 6 4",
   "qx lv lc n9 qx lw lc n9 qx lv ld n9 qx lw ld n9 qx lv n6 n9 qx lw n6 n9 0 2 3 q1 lv n9 q1 lw n9 0 6 4 q1 lv lc n9",
   "q1 lw lc n9 q1 lv ld n9 q1 lw ld n9 q1 lv n6 n9 q1 lw n6 n9 0 2 2 q9 li q9 lg 0 1 3 q9 lc n9 0 1 2 q9 n9 0 1 3 q9",
   "ld n9 1 1 2 q9 n6 0 1 3 q9 n6 n9 0 5 2 pd li pd lg pd lc pd ld pd n9 1 1 1 qh 3 1 3 qf lc n9 0 1 2 qf n9 0 1 3 qf",
   "ld n9 1 1 2 qf n6 0 1 3 qf n6 n9 0 5 2 ph lc ph ld pj lc pj ld pj n9 3 2 2 qh li qh lg 0 2 3 qh lk lc qh lk ld 2",
   "1 2 qh n6 0 1 3 qh lk n6 0 4 2 pl li pl lg pl lc pl ld 4 2 2 qt li qt lg 0 2 3 qt lk lc qt lk ld 0 3 2 qp lv qp",
   "lw qt n6 0 1 3 qt lk n6 0 5 2 px li px lg px lc px ld pt lw 5 1 3 qx lc n9 0 1 2 qx n9 0 1 3 qx ld n9 1 1 2 qx n6",
   "0 1 3 qx n6 n9 0 5 2 pr lc pr ld q1 lc q1 ld q1 n9 38 1 1 2x d 1 1 32 g 6 1 2p 2t 33 3c gp 2w 4 1 1 34 2v 1 1 1v",
   "4 1 1 b4 2 a 1 2v 20 20 20 2w 87 21 21 24 30 1 1 1 26 6 2 1 2a 2a 6 1 1 2i 1 1 1 q1 1 1 1 2i 1 1 1 23 0 1 2 1t lm",
   "3 1 1 2t 3 2 1 25 33 4 1 1 2x 2 4 1 qo qb pf ps 5 1 1 1w q 1 1 21 0 1 2 21 21 0 1 3 21 21 21 0 1 2 21 2e 0 1 1 2e",
   "0 1 2 2e 21 0 1 3 2e 21 21 0 1 4 2e 21 21 21 0 1 2 21 2g 0 1 1 2g 0 1 2 2g 21 0 1 3 2g 21 21 0 1 1 24 2 2 1 25 2x",
   "0 1 2 2x 2x 0 1 3 2x 2x 2x 0 1 2 2x 3a 0 1 1 3a 0 1 2 3a 2x 0 1 3 3a 2x 2x 0 1 4 3a 2x 2x 2x 0 1 2 2x 3c 0 1 1 3c",
   "0 1 2 3c 2x 0 1 3 3c 2x 2x 0 1 1 30 2 1 1 31 264 2 1 2y 2e 6p 1 1 8yp js 1 1 gg1 j 1 2 9jf 9ll 1 1 2 9jh 9ll 1 1",
   "2 9jj 9ll 1 1 2 9jl 9ll 1 1 2 9jn 9ll 1 1 2 9jp 9ll 1 1 2 9jr 9ll 1 1 2 9jt 9ll 1 1 2 9jv 9ll 1 1 2 9jx 9ll 1 1 2",
   "9jz 9ll 1 1 2 9k1 9ll 2 1 2 9k4 9ll 1 1 2 9k6 9ll 1 1 2 9k8 9ll 6 2 2 9kf 9ll 9kf 9lm 1 2 2 9ki 9ll 9ki 9lm 1 2 2",
   "9kl 9ll 9kl 9lm 1 2 2 9ko 9ll 9ko 9lm 1 2 2 9kr 9ll 9kr 9lm m 1 2 9ja 9ll 9 2 2 9lp 9ll 9l4 9l6 c 1 2 9m3 9ll 1 1",
   "2 9m5 9ll 1 1 2 9m7 9ll 1 1 2 9m9 9ll 1 1 2 9mb 9ll 1 1 2 9md 9ll 1 1 2 9mf 9ll 1 1 2 9mh 9ll 1 1 2 9mj 9ll 1 1 2",
   "9ml 9ll 1 1 2 9mn 9ll 1 1 2 9mp 9ll 2 1 2 9ms 9ll 1 1 2 9mu 9ll 1 1 2 9mw 9ll 6 2 2 9n3 9ll 9n3 9lm 1 2 2 9n6 9ll",
   "9n6 9lm 1 2 2 9n9 9ll 9n9 9lm 1 2 2 9nc 9ll 9nc 9lm 1 2 2 9nf 9ll 9nf 9lm m 1 2 9ly 9ll 2 4 2 9nz 9ll 9o0 9ll 9o1",
   "9ll 9o2 9ll 3 2 2 9od 9ll 9mb 9mw 1f 2 1 3hm 3cy b 1 1 3dm 3 1 1 3dt v 1 1 3fk 4 8 1 3ik 3im 3ir 3iv 3ix 3do 3j1",
   "3j3 2 1 1 3ds 2 2 1 3dz 3e1 5 5 1 3ea 3ee 3eo 3ev 3f0 7 1 1 3go 2 3 1 3h0 3ha 3hd n4d 2 1 ui uk 5u 1 1 x2n 3l 3 1",
   "1v 1y 29 3 2 1 86 9f o2 4 1 x0n xtj h7 xua 9 1 1 i5 fbq 7i 1 rpk kc4 s7e rt4 lw1 fg2 gkl vj0 vj0 hn5 ssx gw7 hmw",
   "jcm ne1 p6t qin qt6 r20 sjz kxu ljv mah mvy q4d sq2 uep fia ghh l50 mjf qi5 v8e ifk m3v qfh r50 jih pnc qvz iq2",
   "kd3 lm2 mpo slq fpi g53 gda jwk l3n mj4 nhj pa9 qh2 qjg s1b tv6 upb v7e nt8 nzz otc q15 t1g vb3 rfa hjz iro okg",
   "pdq mle nuy rsy ttj hjs i8y kyb lp6 lxr oq7 oxj tor gcy pe3 g64 g5o o4c ou6 q29 tpx rk0 jin kxu rge fg9 i5j iz6",
   "mtj n74 gev nwb fr3 iw9 ff1 lho k1k opu gjn hge ni9 q4p re2 la2 sds lfs jjy put jog n6t fji g2x g5l kn5 oo7 prj",
   "rf6 ssv gdx gn6 ho3 ir0 k3p m4e nxm tkd ui2 vbr vda gbf kau l87 sbm ino j9s jcw jve lyb mdl n0p o22 ovo pdb s9y",
   "q9a sgz t3e g7r gbn gql ma0 r0i re2 iq1 iyd jnf l9q oji mt1 fl0 h6h i5j iii izg muq mzt p7e pc6 svo tti tvs u1k",
   "fpn o1a ss4 trs j4x fie fyy i5q i7z k2h kxu mha ncy q9o sjg vil k94 tny gax kfv kj7 lkx luk mx5 n6h nsb opc u3i",
   "g31 je6 tq0 fu3 ie1 lpm sa2 ivf j7o kk7 mtj tqe g89 glr i91 k5v kem ko8 lid mx2 naa p6h r0v r1d sss tsy gfz lve",
   "gm5 mhc n14 qgq tr7 uvr vbz kgn lor pns o97 obk olu mo0 m8p riw fk0 px2 g8q g7b ip2 jir onq i2t ljy kac saj qx8",
   "tot r63 iqb g1s gxs 2 1 1 hga 1 1 1 k8k 2 a 1 g66 mqy ngq ny4 nz2 nz9 o0f tw6 on2 p8d 1 1 1 qhe 1 1 1 rg8 2 2 1",
   "shk sn1 3 14 1 u7j u7w u94 v5g sm6 trr fqm fzb g25 gcp gdg ggh gwt gzq h2g hfk hig i90 i9a j2s j8o j9q jci k0f",
   "k4i k9d kn9 lmf lqy lya mem mjv mxu ntd ny6 nyh nyg nyo nyu nz1 2 q 1 o5c o75 og0 ovo ow9 oxt p6a pad pnx prt prt",
   "q53 r2o r6e rgh ri1 rtf ruw sdy shk tsz u0v u2j j1x 36cu pp4 2 2y 1 ffq g51 g2w fpc g1x g3k gcn ge2 gwt gut gwp",
   "gyq hga hir hms hn8 huq i08 iqa iqh iuh iwd j4o j7y j60 j9q j8g jci jec jpg jrw jte k0m k8k kd3 kd7 keu l89 la2",
   "lkx lwb lvv lya m5a mem nmv mk5 mnj mqy n01 n46 n5n nbx nbz ngq nh7 nhw nka nk0 nv0 o8h og0 ol7 orf ovo p4u pad",
   "pxu q27 qrd r41 r5y r6e ren rg8 rez rgh rge rfx ri1 rka ruw sag sj6 srd sxi tq4 tsz tw6 tzv u0v u17 u2j umq vj0",
   "313e 3138 33dh brx cns cop 39e1 3bgw 3i6r vgj vim 12 3 2 2u 2u 2u 2x 2u 30 0 2 3 2u 2u 2x 2u 2u 30 0 2 2 37 38 37",
   "38 c 5 2 12s 12u 12s 12d 12s 12j 132 12u 12s 12l 5 1 2 15l 14k 1 1 2 16a 14n 0 2 1 15u 15c 5 2 1 160 162 1 2 2",
   "161 14x 161 14y 0 2 3 161 14s 14x 161 14s 14y 0 9 2 15c 14n 15c 14o 15c 14s 15d 14s 15e 14s 15f 14s 15g 14s 15h",
   "14s 15i 14s 1 5 2 15k 14s 15l 14s 15m 14s 15n 14s 15o 14s 1 1 2 15q 14s 1 2 2 15s 14s 15t 14s 1 2 2 15v 14s 15w",
   "14s 1 a 2 15y 14s 15z 14s 160 14s 161 14s 162 14s 15h 14p 15d 14v 15n 14v 15w 14v 15c 15o 0 19 1 19t 19t 1a3 1a3",
   "1a3 1a3 1a6 1a6 1a6 1a6 1a8 1a8 1a8 1a8 1a2 1a2 1a2 1a2 1a7 1a7 1a7 1a7 1a1 1a1 1a1 1a1 1b8 1b8 1b8 1b8 1ba 1ba",
   "1ba 1ba 1ac 1ac 1ac 1ac 1ab 1ab 1ab 1ab 1ae 1ae 1ae 2 w 1 1af 1af 1af 1al 1al 1ak 1ak 1am 1am 1ag 1ag 1aw 1aw 1ap",
   "1ap 1bd 1bd 1bd 1bd 1bj 1bj 1bj 1bj 1bn 1bn 1bn 1bn 1bl 1bl 1bl 1bl 1bu 2 3 1 1bv 1bv 1bv 0 2 2 1cl 190 1cl 190 0",
   "a 1 1c1 1c1 1c1 1c1 1by 1by 1by 1by 1ci 1ci 0 2 2 1ci 190 1ci 190 x a 1 1bh 1bh 1bh 1bh 1c7 1c7 1c6 1c6 1c8 1c8 0",
   "1 2 1c7 19w 0 c 1 1cb 1cb 1c5 1c5 1c9 1c9 1cg 1cg 1cg 1cg 18p 18p 0 i 3 18q 190 17r 18q 190 17r 18q 190 1cl 18q",
   "190 1cl 18q 190 18o 18q 190 18o 18q 190 1c7 18q 190 1c7 18q 190 1c6 18q 190 1c6 18q 190 1c8 18q 190 1c8 18q 190",
   "1cg 18q 190 1cg 18q 190 1cg 18q 190 18p 18q 190 18p 18q 190 18p 0 4 1 1cc 1cc 1cc 1cc 0 5 3 18q 190 17w 18q 190",
   "17x 18q 190 18l 18q 190 18p 18q 190 18q 0 2h 2 17s 17w 17s 17x 17s 17y 17s 18l 17s 18p 17s 18q 17u 17w 17u 17x",
   "17u 17y 17u 18l 17u 18p 17u 18q 17v 17w 17v 18l 17v 18p 17v 18q 17w 17x 17w 18l 17x 17w 17x 18l 17y 17w 17y 17x",
   "17y 18l 183 17w 183 17x 183 17y 183 18l 185 17x 185 18l 186 17w 186 17x 186 17y 186 18l 187 17x 187 18l 188 18l",
   "189 17w 189 18l 18a 17w 18a 18l 18h 17w 18h 17x 18h 17y 18h 18l 18h 18p 18h 18q 18i 17x 18i 18l 18i 18p 18i 18q",
   "18j 17r 18j 17w 18j 17x 18j 17y 18j 18k 18j 18l 18j 18p 18j 18q 18k 17w 18k 17x 18k 17y 18k 18l 18k 18p 18k 18q",
   "18l 17w 18l 17x 18l 17y 18l 18l 18l 18p 18l 18q 18m 17w 18m 17x 18m 17y 18m 18l 18m 18p 18m 18q 18n 17w 18n 18l",
   "18n 18p 18n 18q 18q 17w 18q 17x 18q 17y 18q 18l 18q 18p 18q 18q 180 19s 181 19s 18p 19s 6 6 3 18q 190 181 18q 190",
   "182 18q 190 18l 18q 190 18m 18q 190 18p 18q 190 18q 0 19 2 17s 181 17s 182 17s 18l 17s 18m 17s 18p 17s 18q 17u",
   "181 17u 182 17u 18l 17u 18m 17u 18p 17u 18q 17v 181 17v 182 17v 18l 17v 18m 17v 18p 17v 18q 18h 18p 18h 18q 18i",
   "18p 18i 18q 18j 17r 18j 18k 18j 18l 18j 18p 18j 18q 18k 18l 18k 18p 18k 18q 18l 17r 18l 18l 18m 181 18m 182 18m",
   "18l 18m 18m 18m 18p 18m 18q 18p 19s 18q 181 18q 182 18q 18l 18q 18m 18q 18p 18q 18q 0 5 3 18q 190 17w 18q 190 17x",
   "18q 190 17y 18q 190 18l 18q 190 18n 0 1v 2 17s 17w 17s 17x 17s 17y 17s 18l 17s 18n 17u 17w 17u 17x 17u 17y 17u",
   "18l 17u 18n 17v 18l 17w 17x 17w 18l 17x 17w 17x 18l 17y 17w 17y 18l 183 17w 183 17x 183 17y 183 18l 185 17x 185",
   "17y 185 18l 186 17w 186 17x 186 17y 186 18l 187 17x 188 18l 189 17w 189 18l 18a 17w 18a 18l 18h 17w 18h 17x 18h",
   "17y 18h 18l 18i 17x 18i 18l 18j 17w 18j 17x 18j 17y 18j 18k 18j 18l 18k 17w 18k 17x 18k 17y 18k 18l 18k 18n 18l",
   "17w 18l 17x 18l 17y 18l 18l 18m 17w 18m 17x 18m 17y 18m 18l 18m 18n 18n 17w 18n 18l 18n 19s 18q 17w 18q 17x 18q",
   "17y 18q 18l 18q 18n 0 2 3 18q 190 18l 18q 190 18n 0 h 2 17s 18l 17s 18n 17u 18l 17u 18n 17v 18l 17v 18n 183 18l",
   "183 18n 184 18l 184 18n 18j 18k 18j 18l 18k 18l 18m 18l 18m 18n 18q 18l 18q 18n 0 3 3 18g 18u 18x 18g 18v 18x 18g",
   "18w 18x 0 21 2 187 18p 187 18q 189 18p 189 18q 18a 18p 18a 18q 183 18p 183 18q 184 18p 184 18q 17x 18p 17x 18q",
   "17w 18p 17w 18q 17y 18p 17y 18q 185 18p 185 18q 186 18p 186 18q 184 17w 184 17x 184 17y 184 18l 184 181 183 181",
   "185 181 186 181 187 18p 187 18q 189 18p 189 18q 18a 18p 18a 18q 183 18p 183 18q 184 18p 184 18q 17x 18p 17x 18q",
   "17w 18p 17w 18q 17y 18p 17y 18q 185 18p 185 18q 186 18p 186 18q 184 17w 184 17x 184 17y 184 18l 184 181 183 181",
   "185 181 186 181 184 17w 184 17x 184 17y 184 18l 183 18n 184 18n 187 18l 183 17w 183 17x 183 17y 184 17w 184 17x",
   "184 17y 187 18l 188 18l 17r 18r 17r 18r i 1s 3 17u 17w 18l 17u 17x 17w 17u 17x 17w 17u 17x 18l 17u 17y 18l 17u",
   "18l 17w 17u 18l 17x 17u 18l 17y 17w 18l 17x 17w 18l 17x 17x 18l 18q 17x 18l 18p 183 17x 17w 183 17w 17x 183 17w",
   "18p 183 18l 17x 183 18l 17x 183 18l 17w 183 18l 18l 183 18l 18l 185 17x 17x 185 17x 17x 185 18l 18l 184 17x 18l",
   "184 17x 18l 184 17w 18q 184 18l 17y 184 18l 17y 184 18l 18l 184 18l 18l 186 17x 18p 186 17y 18l 186 17y 18l 187",
   "18l 17x 187 18l 17x 187 18l 18l 187 18l 18q 189 17w 18l 189 18l 18l 189 18l 18l 189 18l 18p 18a 18l 18l 18a 18l",
   "18q 18a 18l 18p 18h 17y 18l 18h 17y 18l 18i 18l 17x 18i 18l 18l 18k 17x 18l 18k 17x 18q 18k 17x 18p 18k 17w 17w",
   "18k 17w 17w 18k 17y 18l 18k 17y 18l 18k 18l 17x 18k 18l 17x 18l 17x 17w 18l 17x 18l 18l 17x 18q 18l 17w 17x 18l",
   "17w 18l 18l 17y 17w 18l 17y 18l 2 1i 3 18l 17w 17y 18n 18l 17w 18n 18l 18l 18m 17x 18l 18m 17x 18p 18m 17w 18l",
   "18m 17w 18l 18m 17w 18p 18m 18l 18q 18m 18l 18p 18q 18l 18l 18q 18l 18l 17s 17y 18q 17u 17w 18q 17u 17w 18p 17u",
   "17y 18q 17u 17y 18p 17u 18l 18q 17u 18l 18p 17w 18l 18q 17w 17x 18p 17w 18l 18p 183 17y 18p 185 17x 18q 184 17x",
   "18q 186 17x 18q 18k 17w 18q 18k 18l 18q 18q 17x 18q 18q 17w 18q 18q 18l 18q 18l 18l 18q 18i 18l 18q 18m 17x 18q",
   "18i 18l 17x 18k 17x 18l 189 18l 18q 18j 18l 18q 18m 17w 17x 18l 17y 18q 18k 17w 18l 18j 18l 18l 18k 17w 18l 18m",
   "17w 17x 17w 17x 18q 17x 17w 18q 18l 17w 18q 18h 18l 18q 17s 17x 18q 18j 18l 18l 189 17w 18l 185 18l 18l 183 17y",
   "18q 18m 17w 18q 14 2 3 185 18k 1ci 18i 18k 1ci 0 7 4 17r 18k 18k 18n 17r 18j 17s 181 18l 17x 18l 17z 185 18k 189",
   "18l 181 183 18o 18k 189 18k 18q 18n 18o 183 18k 18l 0 1 3 185 18k 18p 1l 2 1 2n 2n o 3 1 2n 2n 2n x 1 2 18g 18r 5",
   "1 2 18g 18u 1 1 2 18g 18v 1 1 2 18g 18w 1 1 2 18g 18x 1 1 2 18g 18y 0 1 1 17l 0 c 2 17r 18z 17r 18z 17r 190 17r",
   "190 18o 190 18o 190 17r 191 17r 191 18q 190 18q 190 18q 190 18q 190 0 1 1 17r 2 2 1 17s 17s 4 2 1 17u 17u 2 2 1",
   "17v 17v 2 2 1 17w 17w 2 2 1 17x 17x 2 2 1 17y 17y a 2 1 183 183 2 2 1 184 184 2 2 1 185 185 2 2 1 186 186 2 2 1",
   "187 187 2 2 1 188 188 2 2 1 189 189 2 6 1 18a 18a 18a 18h 18h 18h 2 2 1 18i 18i 2 2 1 18j 18j 2 2 1 18k 18k 2 2 1",
   "18l 18l 2 2 1 18m 18m 2 2 1 18n 18n 6 3 1 18q 18q 18q 0 6 3 18k 17r 18z 18k 17r 18z 18k 17r 190 18k 17r 190 18k",
   "17r 191 18k 17r 191 0 2 2 18k 17r 18k 17r 1u 1 1 2n 12 f 1 9o2 9lt 9lv 9lx 9lz 9m1 9nn 9np 9nr 9mr 9oc 9lu 9lw",
   "9ly 9m0 2 e 1 9m5 9m7 9m9 9mb 9md 9mf 9mh 9mj 9ml 9mn 9mp 9ms 9mu 9mw 6 4 1 9n6 9n9 9nc 9nf 5 2 1 9no 9nq 6 2 1",
   "9nz 9o3 2 1 1 3fk 2 2 1 3hm 3cy b 1 1 3dm 3 1 1 3dt 1ji 3 1 6e ih gj 1 4 1 ir xuu it is 2 c 1 5u9 go gu ix h0 gy",
   "gw ij 87 ik h3 hw 2 8 1 h8 2mmc x3i ha 2mmd i6 2mme 6w 2 3 1 35 hm 2mmg 2 7 1 hs iw iu xuv iv i0 8s1 1 1 1 i7 2 1",
   "1 ig 3 2 1 2mmi 2mn2 1r3 1 2 1huh 1hve 1 1 2 1huj 1hve e 1 2 1hut 1hve 3m 2 2 1hyp 1hyf 1hyq 1hyf ez 2 2 1idj",
   "1ida 1idj 1idz a6 2 2 1int 1inu 1int 1ink 1 1 2 1int 1inx 6z 2 2 1iuw 1iun 1iux 1iun os 1 2 1jjp 1jjk 110j 1 1 1t",
   "5 1 1 1z o 1 1 2u 3u 1 1 27 9p 2 1 8h fr j 1 1 pk y 6 1 qd qg qi qu qp qo h 1 1 pk y 6 1 qd qg qi qu qp qo h 1 1",
   "pk y 6 1 qd qg qi qu qp qo h 1 1 pk y 6 1 qd qg qi qu qp qo h 1 1 pk y 6 1 qd qg qi qu qp qo 4e0 2 1 17w 17z 1 5",
   "1 18o 182 17x 187 18q 4 7 1 183 189 18h 185 18i 181 184 2 9 1 17y 180 186 188 18a 19q 1bu 1b5 19r 1 2 1 17s 17w 1",
   "1 1 18n 2 1 1 17x 1 1 1 18q 4 5 1 183 189 18h 185 18i 1 1 1 184 2 1 1 17y 1 1 1 186 1 1 1 18a 6 1 1 17w 4 1 1 17x",
   "1 1 1 18q 1 1 1 18k 1 3 1 18m 183 189 1 2 1 185 18i 1 1 1 184 2 1 1 17y 1 1 1 186 1 1 1 18a 1 1 1 1bu 1 1 1 19r 1",
   "2 1 17s 17w 1 1 1 18n 2 4 1 17x 187 18q 18j 3 5 1 183 189 18h 185 18i 1 1 1 184 2 1 1 17y 1 4 1 186 188 18a 19q 1",
   "1 1 1b5 3 2 1 17w 17z 2 4 1 182 17x 187 18q 4 7 1 183 189 18h 185 18i 181 184 2 5 1 17y 180 186 188 18a 5 3 1 17s",
   "17w 17z 1 5 1 18o 182 17x 187 18q 4 7 1 183 189 18h 185 18i 181 184 2 5 1 17y 180 186 188 18a 1gec 15 1 fgd fg8",
   "fgh 2tcy fog fqm fqz fsy fwa fx5 fzb fyn ae6 2ud6 g25 g2c g2s g3b 2u58 aex g2v g3x 2u6j g47 g4k fkc g4s g51 3ly7",
   "g6t g77 afz g8r g92 gaa gaf ahh gcn gcp gdg ge2 2 2e 1 gev gg9 ggh ggq ghf ghp ghr ghr ghr 2v58 m7k gju gkf 2vdv",
   "gkr gkx gli gpq gmw gnc go8 gpu gs6 gsw gur gv7 gw4 gw4 gwp gx7 gxf gxu h7a gzq h7b h1t h2s g7b hke hce hdg he5",
   "haj hf6 hf5 hik 2x9g hki hkn hl2 hlm hlu hnm 2xm0 2xnu hrg hsr ht3 hqw huu aum av0 hzc i0u i0u 2y88 i4j i54 i5j",
   "i5v 2yhk i67 i6e itv i76 ayp i8w i9a ibk ia5 2z1g if7 2z1i ige igb igs 2 36 1 b3j ikd ilk im5 ind b4y 2zr7 b5o",
   "ipc ipf ipi iq2 3pg2 iri 3035 3035 poh isi isi b7r 335k 3cgq iua iuj b8j ivu ix9 ixj iyh j29 bay ba4 j2s 30t0 j47",
   "j7s j7w j7y j7w j96 j9q jaq jac jan jby jci jcm jdc jdn jfh jht jis jm8 31n0 jlp jjw jmw jnn jqc 31td js2 jph jop",
   "bhq ju1 jum jvh juf bjg k0f k18 32mi k4j kc8 k7d bo9 k9d bns bms g42 g45 kcg k9o pf1 deh kd3 kd7 kdd kf2 ker 33cz",
   "bpl kje kg5 klu kn9 33hp kni kkf kr8 brx ksi kv7 kx6 l2g 33xf l3v bvc l5t 34br l78 bwu l82 l9b 2 26 1 34p9 2yvf",
   "34sa le6 354s lhb lhp lev ljq lku lmf lkx lm1 lmg lmt 357i lkk lrj lta c37 lvv lvr 35jl lq1 m0e 35ni 35ou m2u m61",
   "m5a m57 c5y m6i m7x m7r m99 2u5h mdh 368z mfw 36i3 mjs mk5 mkw 36yw mm8 mmt 3779 37dg mt6 mtn cdo mud ce0 ce0 myv",
   "mzg n01 n0l n2i cgr n50 386u n5q 389e n74 2zrz nbk 38v5 38vs 38zo cn0 cnc nhw 394j 394i 395l 396b 2 4h 1 nj3 nka",
   "cop nm3 cp2 cra 39r1 nri nt8 nv0 ctf 3a5i nyu 3a8q 3a9x o0f o2z cvj o5c o5m o5r 3at8 3b1j 3b1j oa6 d1e 3b8r og6",
   "og9 d2f 3beo onm d5s oo8 oo3 oow 3c06 orn d8h ouf ow2 oxx d9w 3ciw 3cjr dax 3cnt p6i 3cqm p79 pa2 pad 3d22 3d43",
   "pcw 3d7s pdc 33a7 ded pf6 phf dfv pj2 hx1 3dlz 3dmd 33bn 33bw poh pok sda dij psh psb pst gc3 ptd ptf ptp puu",
   "3ebg put pwd pyb q0d pwj q0t q1z q53 pxv q16 q18 q1o 3eie 3eqz 3emt dnv q9d q9f qae 3g0a qck 3f3g dp9 dpd 3f75",
   "3ff6 dpn qj4 qjg qjr qjt qll qko qoe qn6 qrd qp4 qqz qrq dsn qu9 qv5 dtl qxs qxv 3giv r13 r1a dv9 r22 aez 3gz2",
   "3h46 dz2 dzb rds rfx rka rpx 3hrc rsb rsx rvf rxz 3i9b 2upw s0b rzw s1c 2uvy s7o sag 3jki 3jl9 sk4 smp snl 3ju6",
   "snv svs 2 1g 1 sxo t89 t91 3ksa tjf ej9 tkn 3l2v eli ts3 iia tur 3ltx 3lzu epa epi u00 3mdm er6 3mhi u17 u17 u21",
   "3mpi u76 eur u95 ucn ude uf2 ez2 3nsg umq uv4 v0d f66 f71 v3b 3owe f7c 3oxx 3p5a 3p8x vcr f9y veh vem vet vf3 vfa",
   "vgb 3pxc"]

def shiftTable : String := String.intercalate " "
  ["832 2 1 768 175 2 1 961 6461 2 1 68 1 8 1 71 5 2 1 84 2 2 1 592 2 2 1 100 1 2 1 603 7 2 1 7446 1 2 1 116 4 3 1",
   "946 0 2 1 966 2 2 1 117 0 2 1 946 1 2 1 966 57 3 1 616 7 4 1 626 1 2 1 642 1 2 1 649 1 2 1 651 1 3 1 656 727 4 1",
   "107 1 2 1 115 124 3 1 80 16 2 1 66 2 2 1 69 3 4 1 1488 13 2 1 100 0 2 1 105 35 2 1 67 14 2 1 99 3770 2 1 21316",
   "246 2 1 4352 2 2 1 4524 0 3 1 4355 0 6 1 4528 1 3 1 4358 1 10 1 4361 0 21 1 4449 1 2 1 4372 0 2 1 4551 8 2 1",
   "4381 1 2 1 4386 2 5 1 4395 5 2 1 4593 0 3 1 4439 0 2 1 4484 1 2 1 4497 51398 2 1 31117 206 2 1 1491 0 3 1 1499",
   "86 2 1 1670 32 2 1 1722 749 2 1 1575 2 2 1 1576 0 2 1 1577 2 2 1 1578 2 2 1 1579 2 2 1 1580 2 2 1 1581 2 2 1",
   "1582 0 2 1 1583 0 2 1 1584 0 2 1 1585 0 2 1 1586 2 2 1 1587 2 2 1 1588 2 2 1 1589 2 2 1 1590 2 2 1 1591 2 2 1",
   "1592 2 2 1 1593 6 2 1 1601 2 2 1 1602 2 2 1 1603 2 2 1 1604 2 2 1 1605 2 2 1 1606 2 2 1 1607 0 2 1 1608 0 2 1",
   "1609 30 10 1 48 7 26 1 65 6 26 1 97 26 2 1 12458 14 6 1 12490 4 5 1 12510 2 6 1 12520 2 2 1 12441 1 2 1 4352 2 2",
   "1 4524 0 3 1 4355 0 6 1 4528 1 3 1 4358 1 10 1 4361 3 6 1 4449 2 6 1 4455 2 6 1 4461 2 3 1 4467 1956 2 1 720 8 2",
   "1 598 12 2 1 682 8 2 1 630 3 2 1 637 9 2 1 673 1 3 1 448 52295 26 1 65 0 26 1 97 0 26 1 65 0 7 1 97 1 18 1 105 0",
   "26 1 65 0 26 1 97 2 2 1 67 5 2 1 74 2 4 1 78 1 8 1 83 0 4 1 97 3 7 1 104 1 11 1 112 0 26 1 65 0 26 1 97 0 2 1 65",
   "1 4 1 68 2 8 1 74 1 7 1 83 1 26 1 97 0 2 1 65 1 4 1 68 1 5 1 73 5 7 1 83 1 26 1 97 0 26 1 65 0 26 1 97 0 26 1 65",
   "0 26 1 97 0 26 1 65 0 26 1 97 0 26 1 65 0 26 1 97 0 26 1 65 0 26 1 97 0 26 1 65 0 26 1 97 4 17 1 913 1 7 1 931 1",
   "25 1 945 7 17 1 913 1 7 1 931 1 25 1 945 7 17 1 913 1 7 1 931 1 25 1 945 7 17 1 913 1 7 1 931 1 25 1 945 7 17 1",
   "913 1 7 1 931 1 25 1 945 7 2 1 988 2 10 1 48 0 10 1 48 0 10 1 48 0 10 1 48 0 10 1 48 5632 2 1 1575 8 4 1 1603 7",
   "2 1 1578 19 4 1 1603 7 2 1 1578 53 2 1 1605 7 2 1 1578 9 2 1 1575 2 2 1 1607 5 3 1 1604 7 2 1 1578 20 3 1 1604 7",
   "2 1 1578 3385 10 1 48 64559 2 1 21253 86 2 1 24033 114 2 1 27578 78 2 1 30494 161 2 1 37591"]

def compositeTable : String := String.intercalate " "
  ["192 6 1 9 1 6 2 5 2 6 1 9 1 6 2 5 1 17 2 20 2 9 3 4 1 6 4 6 3 6 2 18 2 23 33 2 13 2 28 16 1 6 2 11 3 2 2 36 2 2 6",
   "14 338 1 1 3 1 1 1 3 25 7 25 5 49 2 1 1 3 1 4 3 10 1 31 1 22 2 1 1 3 1 4 3 23 2 73 2 13 4 2 2 2 6 2 6 2 12 2 2",
   "296 5 153 1 1 1 16 1 597 1 7 1 2 1 150 2 379 1 2 2 71 1 53 3 123 1 119 1 6 2 1 2 126 3 141 1 1 3 583 1 2783 1 1 1",
   "1 1 1 1 1 1 3 1 40 1 1 1 2 2 1 1 700 154 6 90 6 22 2 6 2 38 2 6 2 8 1 1 1 1 1 1 1 18 1 1 1 1 1 1 1 1 1 1 1 1 3 53",
   "1 5 1 1 5 3 1 3 1 1 1 1 3 3 3 5 5 3 1 7 1 1 5 3 1 3 1 1 1 1 4175 1 1 1 1 1 1 1 1 1 1 1 1 1 1 1 1 1 1 1 1 1 1 1 2",
   "1 1 1 1 1 6 2 1 2 1 2 1 2 1 2 22 1 9 1 13 1 1 1 1 1 1 1 1 1 1 1 1 1 1 1 1 1 1 1 1 1 1 1 2 1 1 1 1 1 6 2 1 2 1 2 1",
   "2 1 2 22 1 2 4 3 1 57243 1 1 1 14 1 130 2 539 2 366 2 1 1 251 2 892 1"]

def pairTable : String := String.intercalate " "
  ["60 1 824 8814 61 1 824 8800 62 1 824 8815 168 3 768 8173 769 901 834 8129 383 1 775 7835 978 2 769 979 776 980",
   "8127 3 768 8141 769 8142 834 8143 8190 3 768 8157 769 8158 834 8159 8592 1 824 8602 8594 1 824 8603 8596 1 824",
   "8622 8656 1 824 8653 8658 1 824 8655 8660 1 824 8654 8707 1 824 8708 8712 1 824 8713 8715 1 824 8716 8739 1 824",
   "8740 8741 1 824 8742 8764 1 824 8769 8771 1 824 8772 8773 1 824 8775 8776 1 824 8777 8781 1 824 8813 8801 1 824",
   "8802 8804 1 824 8816 8805 1 824 8817 8818 1 824 8820 8819 1 824 8821 8822 1 824 8824 8823 1 824 8825 8826 1 824",
   "8832 8827 1 824 8833 8828 1 824 8928 8829 1 824 8929 8834 1 824 8836 8835 1 824 8837 8838 1 824 8840 8839 1 824",
   "8841 8849 1 824 8930 8850 1 824 8931 8866 1 824 8876 8872 1 824 8877 8873 1 824 8878 8875 1 824 8879 8882 1 824",
   "8938 8883 1 824 8939 8884 1 824 8940 8885 1 824 8941"]

def classTable : String := String.intercalate " "
  ["768 21 230 0 1 232 0 4 220 0 1 232 0 1 216 0 5 220 0 2 202 0 4 220 0 2 202 0 11 220 0 5 1 0 4 220 0 8 230 0 1",
   "240 0 1 230 0 3 220 0 3 230 0 2 220 1 3 230 0 4 220 0 1 230 0 1 232 0 2 220 0 1 230 0 1 233 0 2 234 0 1 233 0 2",
   "234 0 1 233 0 13 230 275 5 230 265 1 220 0 4 230 0 1 220 0 3 230 0 1 222 0 1 220 0 6 230 0 6 220 0 2 230 0 1 220",
   "0 2 230 0 1 222 0 1 228 0 1 230 0 1 10 0 1 11 0 1 12 0 1 13 0 1 14 0 1 15 0 1 16 0 1 17 0 1 18 0 2 19 0 1 20 0 1",
   "21 0 1 22 1 1 23 1 1 24 0 1 25 1 1 230 0 1 220 1 1 18 72 8 230 0 1 30 0 1 31 0 1 32 48 1 27 0 1 28 0 1 29 0 1 30",
   "0 1 31 0 1 32 0 1 33 0 1 34 0 2 230 0 2 220 0 5 230 0 1 220 0 2 230 0 1 220 16 1 35 101 7 230 2 4 230 0 1 220 0",
   "1 230 2 2 230 1 1 220 0 2 230 0 1 220 35 1 36 30 1 230 0 1 220 0 2 230 0 1 220 0 2 230 0 3 220 0 1 230 0 2 220 0",
   "1 230 0 1 220 0 3 230 0 1 220 0 1 230 0 1 220 0 1 230 0 1 220 0 1 230 0 1 220 0 2 230 160 7 230 0 1 220 0 1 230",
   "9 1 220 24 4 230 1 9 230 1 3 230 1 5 230 43 3 220 60 1 230 0 3 220 0 4 230 42 5 230 0 5 220 0 14 230 1 1 220 0 2",
   "230 0 1 220 0 2 230 0 1 220 0 3 230 0 3 220 0 1 27 0 1 28 0 1 29 0 3 230 0 1 220 0 2 230 0 2 220 0 5 230 60 1 7",
   "16 1 9 3 1 230 0 1 220 0 2 230 103 1 7 16 1 9 48 1 230 61 1 7 16 1 9 110 1 7 16 1 9 110 1 7 16 1 9 127 1 9 110 1",
   "7 16 1 9 7 1 84 0 1 91 101 1 7 16 1 9 109 2 9 16 1 9 124 1 9 109 2 103 0 1 9 13 4 107 108 2 118 0 1 9 13 4 122",
   "76 2 220 27 1 220 1 1 220 1 1 216 55 1 129 0 1 130 1 1 132 5 4 130 2 1 130 1 2 230 0 1 9 1 2 230 62 1 220 112 1",
   "7 1 2 9 82 1 220 719 3 230 948 2 9 30 1 9 157 1 9 10 1 230 203 1 228 143 1 222 0 1 230 0 1 220 219 1 230 0 1 220",
   "71 1 9 20 8 230 2 1 220 48 5 230 0 6 220 0 2 230 0 1 220 1 2 220 0 2 230 0 2 220 0 5 230 0 1 220 0 4 230 101 1 7",
   "15 1 9 38 1 230 0 1 220 0 7 230 54 2 9 58 1 7 11 2 9 67 1 7 152 3 230 1 1 1 0 5 220 0 2 230 0 4 220 0 1 230 1 7",
   "1 4 1 220 6 1 230 3 2 230 198 2 230 0 1 220 0 7 230 0 1 220 0 2 230 0 1 234 0 1 214 0 1 220 0 1 202 0 37 230 0 1",
   "232 0 2 228 0 1 220 0 1 218 0 1 230 0 1 233 0 1 220 0 1 230 0 1 220 720 2 230 0 2 1 0 4 230 0 3 1 0 2 230 4 1",
   "230 3 2 1 0 1 230 0 1 220 0 1 230 0 2 1 0 4 220 0 1 230 3070 3 230 141 1 9 96 32 230 554 1 218 0 1 228 0 1 232 0",
   "1 222 0 2 224 105 2 8 30164 1 230 4 10 230 32 2 230 80 2 230 276 1 9 37 1 9 151 1 9 27 18 230 57 3 220 37 1 9 95",
   "1 7 12 1 9 239 1 230 1 2 230 0 1 220 2 2 230 5 2 230 1 1 230 52 1 9 246 1 9 20272 1 26 769 7 230 0 7 220 0 2 230",
   "973 1 220 226 1 220 149 5 230 1682 1 220 1 1 230 40 1 230 0 1 1 0 1 220 4 1 9 165 1 230 0 1 220 573 4 230 387 2",
   "230 153 2 220 0 3 230 0 1 220 0 1 230 0 4 220 49 1 230 0 1 220 0 1 230 0 1 220 192 1 9 41 1 9 14 1 9 57 1 9 0 1",
   "7 69 3 230 48 2 9 62 1 7 76 1 9 9 1 7 106 1 9 0 1 7 178 1 7 0 1 9 80 2 7 16 1 9 24 7 230 3 5 230 205 1 9 3 1 7",
   "23 1 230 99 1 9 0 1 7 251 1 9 0 1 7 126 1 9 118 1 9 0 1 7 115 1 9 269 1 9 0 1 7 258 2 9 4 1 7 156 1 9 83 1 9 18",
   "1 9 81 1 9 421 1 9 258 1 7 1 2 9 81 1 9 19800 5 1 59 7 230 1209 2 6 19628 1 1 5318 2 216 0 3 1 3 1 226 0 5 216 8",
   "8 220 2 5 230 0 2 220 30 4 230 148 3 230 3515 7 230 1 17 230 2 7 230 1 2 230 1 5 230 261 7 230 375 1 230 61 4",
   "230 1504 7 220 109 6 230 0 1 7"]

end Covenant.Text
