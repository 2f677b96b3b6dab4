import FlowAudit.Unicode.Runs

/-!
# How characters of domain names are mapped

The mapping of internationalised domain names, for every character. A run has one of these tags:

* `V`: the characters stay as they are;
* `X`: the characters are not allowed;
* `I`: the characters are left out;
* `M` with numbers set apart by dots: the characters become those with the numbers;
* `P` or `N` with a number: the number is added to that of the character, or taken from it;
* `E`: the first, third, … character becomes the one behind it, and the others stay.
-/

namespace FlowAudit.Unicode

/-- The runs of the mapping. -/
def domainMappingText : List String :=
  ["1tV qPw 11V wX 1Mw 7V 1Mw.lk 1V 1M2p 2V 1I 1V 1Mw.lg 2V 2N3k 1Mw.ld 1Mqk 2V 1Mw.mf 1M1d 1M33",
   "1V 1M1d.6dg.1g 1M1d.6dg.1e 1M1f.6dg.1g 1V nPw 1V 7Pw xV 1cE 1M2x.lj 1V 2M2x.2y 4E 1V 6E",
   "2M30.53 8E 1Mjg.32 1aE 1M73 6E 1M37 1V 1Mgj 4E 1Mgk 1P1 1V 2P5p 1P1 2V 1Md9 1Mgp 1Mgr 1P1 1V",
   "1Mgw 1Mgz 1V 1Mh5 1Mh4 1P1 3V 1Mhb 1Mhe 1V 1Mhh 6E 1Mhs 1P1 1V 1Mhv 2V 1P1 1V 1Mi0 1P1 1V 2P61",
   "4E 1Mia 1P1 3V 1P1 7V 3M2s.am 3M30.2y 3M32.2y gE 1V iE 1V 3M2s.3e 1P1 1V 1Mb9 1Mcf 14E 1Mbi 1V",
   "iE 6V 1M8rp 1P1 1V 1Mbe 1M8rq 2V 1P1 1V 1Mao 1Mi1 1Mi4 aE 2oV 1M2w 1Mh2 1M2y 1M36 1Mhl 1Mhn",
   "1Mht 1M3b 1M3d vV 1Mw.li 1Mw.lj 1Mw.lm 1Mw.mg 1Mw.lf 1Mw.ln 2V 1Mgz 1M30 1M37 1M3c 1Mid 2jV",
   "2N1s 1V 1Mlv 1Mlk.ld 1Mqh 9V 1I wV 4E 1Mjd 1V 1P1 1V 2X 1Mw.qh 3V 1M1n 1Ms3 4X 1Mw.ld",
   "1Mw.lk.ld 1Mq4 1M53 3P11 1X 1Mr0 1X 2P1r 1V hPw 1X 9Pw zV 1P8 1Nu 1Np 1Nd 1N6 1N9 1Nf 1Nm 1V",
   "oE 1Mqi 1Mqp 1Mqr 1V 1Mqg 1Mqd 1V 1P1 1V 1Mqr 1P1 2V 3N3m gP28 wPw 1cV yE 8V 1iE 1Pf eE 1V 2oE",
   "1X 12P1c 2X 1aV 1M12d.136 3V 2X 3V 1X 1jV 8X rV 4X 6V hX mV 1X 2gV 1M17r.19w 1M18o.19w",
   "1M1c7.19w 1M18q.19w 2sV 1X 1cV 2X 1nV 2X 2tV eX 1nV 2X 1dV 2X fV 1X sV 2X 1V 1X bV 5X wV 7X",
   "23V 1X 39V 1M1sl.1to 1M1sm.1to 1M1sn.1to 1M1ss.1to 1M1sx.1to 1M1sy.1to 1M1t7.1to 1M1tb.1to 10V",
   "1X 8V 2X 2V 2X mV 1X 7V 1X 1V 3X 4V 2X 9V 2X 2V 2X 4V 8X 1V 4X 1M1wh.1x8 1M1wi.1x8 1X",
   "1M1wv.1x8 4V 2X pV 2X 3V 1X 6V 4X 2V 2X mV 1X 7V 1X 1V 1M20i.20s 1X 1V 1M20o.20s 1X 2V 2X 1V",
   "1X 5V 4X 2V 2X 3V 3X 1V 7X 1M1zq.20s 1M1zr.20s 1M1zw.20s 1V 1X 1M20b.20s 7X hV aX 3V 1X 9V 1X",
   "3V 1X mV 1X 7V 1X 2V 1X 5V 2X aV 1X 3V 1X 3V 2X 1V fX 4V 2X cV 7X 7V 1X 3V 1X 8V 2X 2V 2X mV",
   "1X 7V 1X 2V 1X 5V 2X 9V 2X 2V 2X 3V 7X 3V 4X 1M275.27w 1M276.27w 1X 5V 2X iV aX 2V 1X 6V 3X 3V",
   "1X 4V 3X 2V 1X 1V 1X 2V 3X 2V 3X 3V 3X cV 4X 5V 3X 3V 1X 4V 2X 1V 6X 1V eX lV 5X dV 1X 3V 1X",
   "nV 1X gV 2X 9V 1X 3V 1X 4V 7X 2V 1X 3V 1X 2V 2X 4V 2X aV 7X mV 1X 3V 1X nV 1X aV 1X 5V 2X 9V",
   "1X 3V 1X 4V 7X 2V 5X 3V 1X 4V 2X aV 1X 3V cX dV 1X 3V 1X 1fV 1X 3V 1X 6V 4X gV 2X qV 1X 3V 1X",
   "iV 3X oV 1X 9V 1X 1V 2X 7V 3X 1V 4X 6V 1X 1V 1X 8V 6X aV 2X 3V cX 1eV 1M2tp.2sy 7V 4X tV 11X",
   "2V 1X 1V 1X 5V 1X oV 1X 1V 1X cV 1M2x9.2wi aV 2X 5V 1X 1V 1X 7V 1X aV 2X 1M2wb.2vt 1M2wb.2w1",
   "2V wX cV 1N1 1iV 1M30i.33r 4V 1X 4V 1M30s.33r 4V 1M30x.33r 4V 1M312.33r 4V 1M317.33r cV",
   "1M30g.33p 3V 4X 2V 1M31t.31u 1V 1M31t.31w 1M33m.328 1M33m.31t.328 1M33n.328 1M33n.31t.328 7V",
   "1M31t.328 hV 1M32q.33r 4V 1X 4V 1M330.33r 4V 1M335.33r 4V 1M33a.33r 4V 1M33f.33r cV 1M32o.33p",
   "3V 1X fV 1X dV 11X 4gV 12P5ls 1X 1M8x3 5X 1M8x9 2X 18V 1Nw 2qV 2I 6gV 1X 4V 2X 7V 1X 1V 1X 4V",
   "2X 15V 1X 4V 2X xV 1X 4V 2X 7V 1X 1V 1X 4V 2X fV 1X 1lV 1X 4V 2X 1vV 2X wV 3X qV 6X 2eV 2X 6N8",
   "2X hsV 1X sV 3X 2hV 7X mV 9X oV 9X kV cX dV 1X 3V 1X 2V cX 1gV 2I 14V 2X aV 6X aV 6X bV 5I aV",
   "6X 2hV 7X 17V 5X 1yV aX vV 1X cV 4X cV 4X 1V 3X 16V 2X 5V bX 18V 4X qV 6X bV 3X 1qV 2X 1tV 1X",
   "tV 2X bV 6X aV 6X eV 2X 1aV 2X cV kX 25V 1X 4mV 8X 1oV 3X fV 3X 1fV 1Mtu 1Mtw 1Mu6 2N4si 1Mua",
   "1Mui 1Mv7 1Mwuj 1P1 1V 5X 17N2bk 2X 3N2bk 8V 8X 17V 5X 18V 1M2p 1M6e 1M2q 1V 2N5os 1Md9 8N5os",
   "1V 1M33 1Mf7 1M34 1M36 2N5os 1M3b 1M2p 2N5bo 1N1w 1M2q 2N5pg 1Mgp 2N5bk 1M2v 1V 1M2z 1M31 1M97",
   "1M33 1Mgk 2N1q 1M34 2N5pf 1N1o 1Mhb 1M3a 1N1j 3N52j 2N522 1M2x 1M36 2N5pr 2N52s 1Mqp 2N52b dV",
   "1Mu5 yV 1Mgi 1M2r 1Mgl 1M6o 1Mgs 1M2u 1Mgv 1Mgx 1Mh1 3N5do 1N18 1Mil 1Mh9 1N11 1Min 1Mhd 1Mhc",
   "4N5do 1Mhk 2N5dd 1Mbv 2N5d9 1N4c 2N5da 1M3e 3N5d8 1Mqg 1sV 46E 4V 1M2p.ji 1N1m 2V 1M67 1V 2oE",
   "8V 8N8 6V 2X 6N8 2X 8V 8N8 8V 8N8 6V 2X 6N8 2X 8V 1X 1N8 1X 1N8 1X 1N8 1X 1N8 8V 8N8 1V 1Mq4",
   "1V 1Mq5 1V 1Mq6 1V 1Mq7 1V 1Mr0 1V 1Mr1 1V 1Mr2 2X 1M64g.qh 1M64h.qh 1M64i.qh 1M64j.qh",
   "1M64k.qh 1M64l.qh 1M64m.qh 1M64n.qh 1M64g.qh 1M64h.qh 1M64i.qh 1M64j.qh 1M64k.qh 1M64l.qh",
   "1M64m.qh 1M64n.qh 1M65c.qh 1M65d.qh 1M65e.qh 1M65f.qh 1M65g.qh 1M65h.qh 1M65i.qh 1M65j.qh",
   "1M65c.qh 1M65d.qh 1M65e.qh 1M65f.qh 1M65g.qh 1M65h.qh 1M65i.qh 1M65j.qh 1M674.qh 1M675.qh",
   "1M676.qh 1M677.qh 1M678.qh 1M679.qh 1M67a.qh 1M67b.qh 1M674.qh 1M675.qh 1M676.qh 1M677.qh",
   "1M678.qh 1M679.qh 1M67a.qh 1M67b.qh 2V 1M67k.qh 1Mq9.qh 1Mq4.qh 1X 1V 1M69i.qh 2N8 1N22 1Mq4",
   "1Mq9.qh 1Mw.lv 1Mqh 1Mw.lv 1Mw.n6 1Mw.lk.n6 1M67o.qh 1Mqf.qh 1Mq6.qh 1X 1V 1M69y.qh 1N2e 1Mq5",
   "1N2e 1Mq6 1Mqf.qh 1Mw.lv.lc 1Mw.lv.ld 1Mw.lv.n6 3V 1Mpc 2X 2V 2N8 1N2s 1Mq7 1X 1Mw.lw.lc",
   "1Mw.lw.ld 1Mw.lw.n6 3V 1Mq8 4V 2N8 1N34 1Mr1 1N7 1Mw.lk.lc 1Mw.lk.ld 1M2o 2X 1M67w.qh 1Mqx.qh",
   "1Mr2.qh 1X 1V 1M6ba.qh 1N3k 1Mr0 1N3i 1Mr2 1Mqx.qh 1Mw.ld 1Mw.lw 1X bMw 1I 2V 2X 1V 1N1 5V",
   "1Mw.mr cV 3X 1V 7X 1Mw 3V 1M6cy.6cy 1M6cy.6cy.6cy 1V 1M6d1.6d1 1M6d1.6d1.6d1 4V 1Mx.x 1V",
   "1Mw.lh 8V 1M1r.1r 1M1r.x 1Mx.1r dV 1M6cy.6cy.6cy.6cy 7V 1Mw 5I 5X 6I 1M1c 1M2x 2X 6N6dc 1M17",
   "1Pbb 1M1p 2N6dx 1M32 aN6ds 1M17 1Pav 1M1p 2N6ed 1X 1M2p 1M2t 1M33 1M3c 1Mgp 1M2w 4N6cr 1M34",
   "2N6co 3X 8V 1M36.37 pV eX xV fX 1M2p.1b.2r 1M2p.1b.37 1M2r 1M4w.2r 1V 1M2r.1b.33 1M2r.1b.39",
   "1Mgr 1V 1M4w.2u 2N6g3 3M2w 1M87 2M2x 2M30 1V 1M32 1M32.33 2V 3N6g9 2M36 2V 1M37.31 1M38.2t.30",
   "1M38.31 1V 1M3e 1V 1Mqx 1V 1M3e 1V 1M2z 1M6d 2N6h6 1V 2M2t 1M2u 1Ps 1M31 1M33 4N5et 1M2x 1V",
   "1M2u.2p.3c 1Mqo 2Mqb 1Mqo 1P5t 4V 2M2s 1M2t 2N6hr 6V 1M1d.6dg.1j 1M1d.6dg.1l 1M1d.6dg.1d.1c",
   "1M1d.6dg.1f 1M1e.6dg.1f 1M1d.6dg.1h 1M1e.6dg.1h 1M1f.6dg.1h 1M1g.6dg.1h 1M1d.6dg.1i",
   "1M1h.6dg.1i 1M1d.6dg.1k 1M1f.6dg.1k 1M1h.6dg.1k 1M1j.6dg.1k 1M1d.6dg 1M2x 1M2x.2x 1M2x.2x.2x",
   "1M2x.3a 1M3a 1M3a.2x 1M3a.2x.2x 1M3a.2x.2x.2x 1M2x.3c 1M3c 1M3c.2x 1M3c.2x.2x 1M30 2N6iy 1M31",
   "1M2x 1M2x.2x 1M2x.2x.2x 1M2x.3a 1M3a 1M3a.2x 1M3a.2x.2x 1M3a.2x.2x.2x 1M2x.3c 1M3c 1M3c.2x",
   "1M3c.2x.2x 1M30 2N6je 1M31 3V 1P1 5V 1M1c.6dg.1f 2V 4X 4cV 1M6qz.6qz 1M6qz.6qz.6qz 1V",
   "1M6r2.6r2 1M6r2.6r2.6r2 6wV 2P2jj 73V mX bV lX 9N75b 1M1d.1c 1M1d.1d 1M1d.1e 1M1d.1f 1M1d.1g",
   "1M1d.1h 1M1d.1i 1M1d.1j 1M1d.1k 1M1d.1l 1M1e.1c 1M14.1d.15 1M14.1e.15 1M14.1f.15 1M14.1g.15",
   "1M14.1h.15 1M14.1i.15 1M14.1j.15 1M14.1k.15 1M14.1l.15 1M14.1d.1c.15 1M14.1d.1d.15",
   "1M14.1d.1e.15 1M14.1d.1f.15 1M14.1d.1g.15 1M14.1d.1h.15 1M14.1d.1i.15 1M14.1d.1j.15",
   "1M14.1d.1k.15 1M14.1d.1l.15 1M14.1e.1c.15 kX 1M14.2p.15 1M14.2q.15 1M14.2r.15 1M14.2s.15",
   "1M14.2t.15 1M14.2u.15 1M14.2v.15 1M14.2w.15 1M14.2x.15 1M14.2y.15 1M14.2z.15 1M14.30.15",
   "1M14.31.15 1M14.32.15 1M14.33.15 1M14.34.15 1M14.35.15 1M14.36.15 1M14.37.15 1M14.38.15",
   "1M14.39.15 1M14.3a.15 1M14.3b.15 1M14.3c.15 1M14.3d.15 1M14.3e.15 qN76d qN773 1M1c 10hV",
   "1M6qz.6qz.6qz.6qz 2vV 1M1m.1m.1p 1M1p.1p 1M1p.1p.1p 2tV 1M8gt.mw 47V 2X 3uV 1cP1c 1cV 1P1 1V",
   "1Mh7 1M5tp 1Mhp 2V 6E 1Mgh 1Mhd 1Mgg 1Mgi 1V 1P1 2V 1P1 6V 1M2y 1M3a 2N8cf 2sE 7V 4E 3V 1P1 1V",
   "5X 19V 1X 1V 5X 1V 2X 1kV 7X 1Ne 1V eX oV 9X 7V 1X 7V 1X 7V 1X 7V 1X 7V 1X 7V 1X 7V 1X 7V 1X",
   "3iV yX qV 1X 4V 1Mlal 2bV 1Mvj3 cX 1Mfeo 1Mffs 1Mfg6 1Mfgf 1Mfh5 1Mfid 1Mfik 1Mfj4 1Mfju 1Mg1r",
   "1Mg2t 1Mg2z 1Mg3m 1Mg46 1Mg4r 1Mg68 1Mg6t 1Mg74 1Mgbf 1Mge1 1Mget 1Mgey 1Mgfs 1Mgg1 1Mggs",
   "1Mgh5 1Mghu 1Mgja 1Mgjs 1Mgkj 1Mh5j 1Mh7j 1Mhkb 1Mhky 1Mhl6 1Mhlh 1Mhlz 1Mho3 1Mi1c 1Mi2o",
   "1Mi60 1Mi6n 1Mi76 1Mi7s 1Mi9a 1Mi9d 1Mijf 1Mijp 1Mik1 1Mike 1Minm 1Minu 1Minz 1Mir8 1Miri",
   "1Mirv 1Mis3 1Mits 1Miu9 1Miur 1Miwz 1Mjd4 1Mjee 1Mjez 1Mjzj 1Mjzo 1Mk1z 1Mk2f 1Mk2s 1Mk3d",
   "1Mk4g 1Mk4l 1Mkc0 1Mkco 1Mkdk 1Ml5s 1Ml7m 1Ml89 1Ml9v 1Mlaj 1Mlas 1Mlaz 1Mlcf 1Mlck 1Mldg",
   "1Mm7f 1Mmju 1Mmk6 1Mmkb 1Mmkf 1Mmkn 1Mml5 1Mml7 1Mmng 1Mmtg 1Mmtl 1Mn30 1Mn3a 1Mn4o 1Mn4v",
   "1Mn54 1Mn5c 1Mn7v 1Mn82 1Mnee 1Mnel 1Mnfy 1Mngf 1Mnhq 1Mnob 1Mnoi 1Mnoz 1Mny2 1Mo1k 1Mo1q",
   "1Mo6s 1Mo97 1Moah 1Mokz 1Mooo 1Mp4m 1Mp5d 1Mp6y 1Mp8d 1Mpa9 1Mpak 1Mpaq 1Mpbn 1Mpdr 1Mpe1",
   "1Mpnn 1Mpnu 1Mpo3 1Mpoc 1Mpos 1Mpp7 1Mppb 1Mpri 1Mprm 1Mprs 1Mqj1 1Mqjv 1Mqww 1Mqx8 1Mqxv",
   "1Mr5q 1Mr63 1Mr82 1Mr9c 1Mrp3 1Mrpi 1Mrpx 1Mrqw 1Mrrx 1Mrxg 1Mrxs 1Mrzn 1Ms6j 1Ms7e 1Msd7",
   "1Msds 1Msdx 1Msk1 1Msp5 1Mssm 1Msss 1Mssx 1Mtiv 1Mtj4 1Mtng 1Mtrq 1Mtrt 1Mtt4 1Mtw1 1Mtwe",
   "1Mtwi 1Mtwp 1Mtzf 1Mu0d 1Mu0j 1Mu0x 1Mu5k 1Mu6z 1Mu73 1Muc6 1Muc9 1Mucs 1Mujs 1Mul4 1Mulb",
   "1Mun9 1Munj 1Munm 1Munw 1Muoq 1Muzp 1Mvat 1Mvb3 1Mvc5 1Mvcr 1Mvcz 1Mvd9 1Mvdd 1Mveh 1Mvel",
   "1Mvf2 1Mvf7 1Mvfk 1Mvgb 1Mvgq 1Mvgy 1Mvil 1Mvj0 1Mvj4 16X 1Mw 1V 1M1a 1fV 1N10 1V 1Mgg1 2P6x7",
   "5V 1X 2eV 2X 2V 1Mw.9ll 1Mw.9lm 2V 1M9l4.9l6 2nV 1M9mb.9mw 5X 17V 1X 2N6cx 1M3hm 1M3cy 2N689",
   "3N6d0 6N68a 1M3dm 3N6d7 1M3dt aN6d8 lN6b2 1I 2N6dt 2N68w 1M3ik 1M3im 1M3ir 1M3iv 1M3ix 1M3do",
   "1M3j1 1M3j3 2N6dw 1M3ds 2N6du 1M3dz 1M3e1 5N6dp 1M3ea 1M3ee 1M3eo 1M3ev 1M3f0 2N68h 3N6ct",
   "2N6bn 1M3go 2N6bd 1M3h0 1M3ha 1M3hd 1X 2V 1Mfeo 1Mfik 1Mfex 1Mh5n 1Mfey 1Mffx 1Mfez 1Mn5e",
   "1Mfh5 1Mffd 1Mfep 1Mhm1 1Mh80 1Mfju 1yV aX gV 1M14.3cw.15 1M14.3cy.15 1M14.3cz.15 1M14.3d1.15",
   "1M14.3d2.15 1M14.3d3.15 1M14.3d5.15 1M14.3d7.15 1M14.3d8.15 1M14.3da.15 1M14.3db.15",
   "1M14.3dc.15 1M14.3dd.15 1M14.3de.15 1M14.xz4.15 1M14.yvs.15 1M14.zc4.15 1M14.108s.15",
   "1M14.10p4.15 1M14.115g.15 1M14.1224.15 1M14.12ys.15 1M14.13f4.15 1M14.14bs.15 1M14.14s4.15",
   "1M14.158g.15 1M14.15os.15 1M14.1654.15 1M14.13p8.15 1M14.1350.13ic.15 1M14.1350.16f8.15 1X",
   "1M14.feo.15 1M14.fik.15 1M14.fex.15 1M14.h5n.15 1M14.fis.15 1M14.g31.15 1M14.fer.15",
   "1M14.g2z.15 1M14.fh9.15 1M14.gg1.15 1M14.kco.15 1M14.m7f.15 1M14.ldg.15 1M14.kdk.15",
   "1M14.ssx.15 1M14.h7j.15 1M14.k4l.15 1M14.kkq.15 1M14.kcp.15 1M14.ny6.15 1M14.glp.15",
   "1M14.mm1.15 1M14.rs1.15 1M14.nz1.15 1M14.gc4.15 1M14.fkz.15 1M14.gos.15 1M14.i1y.15",
   "1M14.nhf.15 1M14.flt.15 1M14.rt3.15 1M14.ggk.15 1M14.nzh.15 1M14.fm9.15 1M14.pnu.15",
   "1M14.po3.15 1Mgun 1Minw 1Mk1z 1Moen 8V 1M34.38.2t 1M1e.1d 1M1e.1e 1M1e.1f 1M1e.1g 1M1e.1h",
   "1M1e.1i 1M1e.1j 1M1e.1k 1M1e.1l 1M1f.1c 1M1f.1d 1M1f.1e 1M1f.1f 1M1f.1g 1M1f.1h 1M3cw 2N6lb",
   "3N6la 1M3d5 2N6l8 5N6l7 1Mxz4 1Myvs 1Mzc4 1Pqa3 1Pqqe 1Pr6p 1Ps3c 1Pszz 1Ptga 1Pucx 1Put8",
   "1Pv9j 1Pvpu 1Pw65 1M14c8.y5c 1M13p8.13dk 1Pt9u 1V 1Mfeo 1Mfik 1Mfex 1Mh5n 1Mfis 1Mg31 1Mfer",
   "1Mg2z 1Mfh9 1Mgg1 1Mkco 1Mm7f 1Mldg 1Mkdk 1Mssx 1Mh7j 1Mk4l 1Mkkq 1Mkcp 1Mny6 1Mglp 1Mmm1",
   "1Mrs1 1Mnz1 1Mgc4 1Mo2g 1Mn5j 1Mho3 1Msix 1Mg16 1Mghc 1Mlig 1Mu11 1Mfm9 1Mg49 1Ml7n 1Mfey",
   "1Mffx 1Mfez 1Mijq 1Mgkz 1Mgfv 1Mi3b 1Mi1y 1Mnhf 1Mflt 1Mrt3 1Mggk 1Mhlo 1M1f.1i 1M1f.1j",
   "1M1f.1k 1M1f.1l 1M1g.1c 1M1g.1d 1M1g.1e 1M1g.1f 1M1g.1g 1M1g.1h 1M1g.1i 1M1g.1j 1M1g.1k",
   "1M1g.1l 1M1h.1c 1M1d.kco 1M1e.kco 1M1f.kco 1M1g.kco 1M1h.kco 1M1i.kco 1M1j.kco 1M1k.kco",
   "1M1l.kco 1M1d.1c.kco 1M1d.1d.kco 1M1d.1e.kco 1M2w.2v 1M2t.36.2v 1M2t.3a 1M30.38.2s 1Nfi 1Nfh",
   "1Nfg 1Nff 2Nfe 1Nfd 1Nfc 1Nfb 1Nfa 1Nf9 1Nf8 1Nf7 1Nf6 1Nf5 1Nf4 1Nf3 1Nf1 1Nf0 1Nez 6Ney 1New",
   "1Neu 1Nes 1Neq 5Neo 1Nen 1Nem 6Nel 4Nek 1Mfl0.gp8 1M9lu.9n5.9oc.9mw 1M9lu.9nv.9n9.9lt",
   "1M9lu.9o3.9ne.9lu 1M9lu.9oc.9nv 1M9lw.9mz.9o3.9m8 1M9lw.9o3.9mp 1M9ly.9m1.9o3",
   "1M9m0.9mh.9m7.9oc.9mx 1M9m0.9oc.9m3.9oc 1M9m2.9o3.9mh 1M9m2.9oc.9nk 1M9m3.9lw.9nu",
   "1M9m3.9nt.9mr.9mw 1M9m3.9nx.9nu.9oc 1M9m4.9nx.9o3 1M9m4.9o3.9ni 1M9m6.9m4 1M9m6.9mz.9oc",
   "1M9m5.9np.9nu.9oc 1M9m6.9nv.9mo.9oc 1M9m5.9nx 1M9m5.9nx.9m8.9nt.9nk 1M9m5.9nx.9nl.9oc.9mw.9nv",
   "1M9m5.9nx.9nz.9mr.9mw 1M9m8.9nt.9nk 1M9m8.9nt.9nk.9mw.9o3 1M9m7.9nv.9mk.9lw.9nx",
   "1M9m7.9nx.9oc.9n1 1M9m9.9oc.9mh 1M9mb.9nv.9my 1M9mb.9oc.9nh 1M9md.9lw.9m7.9nv",
   "1M9md.9o3.9mp.9oc.9nk 1M9mf.9nu.9o3.9m8 1M9mj.9o3.9mp 1M9mj.9o3.9mw 1M9mo.9oc.9mh 1M9mv.9mf",
   "1M9mx.9nv 1M9mw.9o3 1M9my.9n2 1M9n2.9mr.9mw 1M9n3.9lw.9ms 1M9n5.9oc.9mj.9o3.9mw 1M9n5.9oc.9ms",
   "1M9n4.9oc.9nw.9nv 1M9n8.9lu.9mh.9mw.9nv 1M9n8.9m7.9nv 1M9n8.9mb 1M9n7.9nv",
   "1M9n9.9lt.9nt.9mr.9mx 1M9n9.9lv.9oc.9mw 1M9na.9mr.9mf.9lz.9nv 1M9n9.9nt.9o3",
   "1M9nc.9m7.9mn.9oc.9nv 1M9ne.9ml 1M9ne.9mz.9n6 1M9nc.9nv.9ms 1M9ne.9o3.9mh 1M9ne.9oc.9mg",
   "1M9nd.9oc.9mn 1M9nh.9lw.9o3.9mw 1M9ng.9nv.9mw 1M9nf.9o3 1M9nh.9o3.9mx 1M9nf.9oc.9nv",
   "1M9nf.9oc.9o3 1M9ni.9lw.9m7.9nx 1M9ni.9lw.9nv 1M9ni.9mr.9n3 1M9ni.9nv.9m7",
   "1M9ni.9o3.9mf.9nr.9o3 1M9nj.9m7.9nx.9o3 1M9nj.9nu 1M9nj.9nu.9n4.9oc.9nv 1M9nl.9m4",
   "1M9nl.9m4.9mw.9o3 1M9nl.9oc.9mw.9nv 1M9no.9oc.9mx 1M9no.9oc.9nv 1M9nq.9lu.9o3",
   "1M9nu.9mr.9mw.9nv 1M9nu.9nt 1M9nv.9n8.9oc 1M9nv.9oc.9na.9nv 1M9nw.9nk 1M9nw.9o3.9mw.9ma.9o3",
   "1M9nz.9mr.9mw 1M1c.m9l 1M1d.m9l 1M1e.m9l 1M1f.m9l 1M1g.m9l 1M1h.m9l 1M1i.m9l 1M1j.m9l 1M1k.m9l",
   "1M1l.m9l 1M1d.1c.m9l 1M1d.1d.m9l 1M1d.1e.m9l 1M1d.1f.m9l 1M1d.1g.m9l 1M1d.1h.m9l 1M1d.1i.m9l",
   "1M1d.1j.m9l 1M1d.1k.m9l 1M1d.1l.m9l 1M1e.1c.m9l 1M1e.1d.m9l 1M1e.1e.m9l 1M1e.1f.m9l",
   "1M1e.1g.m9l 1M2w.34.2p 1M2s.2p 1M2p.39 1M2q.2p.36 1M33.3a 1M34.2r 1M2s.31 1M2s.31.1e",
   "1M2s.31.1f 1M2x.39 1Minn.jdc 1Mk6l.gp8 1Mhlz.l7n 1Mk5q.lh7 1Mkkq.irz.fmi.ny6 1M34.2p 1M32.2p",
   "1Mqk.2p 1M31.2p 1M2z.2p 1M2z.2q 1M31.2q 1M2v.2q 1M2r.2p.30 1M2z.2r.2p.30 1M34.2u 1M32.2u",
   "1Mqk.2u 1Mqk.2v 1M31.2v 1M2z.2v 1M2w.3e 1M2z.2w.3e 1M31.2w.3e 1M2v.2w.3e 1M38.2w.3e 1Mqk.30",
   "1M31.30 1M2s.30 1M2z.30 1M2u.31 1M32.31 1Mqk.31 1M31.31 1M2r.31 1M2z.31 1M31.31.1e 1M2r.31.1e",
   "1M31.1e 1M2z.31.1e 1M31.31.1f 1M2r.31.1f 1M31.1f 1M2z.31.1f 1M31.6qd.37 1M31.6qd.37.1e 1M34.2p",
   "1M2z.34.2p 1M31.34.2p 1M2v.34.2p 1M36.2p.2s 1M36.2p.2s.6qd.37 1M36.2p.2s.6qd.37.1e 1M34.37",
   "1M32.37 1Mqk.37 1M31.37 1M34.3a 1M32.3a 1Mqk.3a 1M31.3a 1M2z.3a 1M31.3a 1M34.3b 1M32.3b",
   "1Mqk.3b 1M31.3b 1M2z.3b 1M31.3b 1M2z.qx 1M31.qx 1X 1M2q.35 1M2r.2r 1M2r.2s 1M2r.6qd.2z.2v 1X",
   "1M2s.2q 1M2v.3d 1M2w.2p 1M2w.34 1M2x.32 1M2z.2z 1M2z.31 1M2z.38 1M30.31 1M30.32 1M30.33.2v",
   "1M30.3c 1M31.2q 1M31.2x.30 1M31.33.30 1M34.2w 1X 1M34.34.31 1M34.36 1M37.36 1M37.3a 1M3b.2q",
   "1M3a.6qd.31 1M2p.6qd.31 1M1d.k4l 1M1e.k4l 1M1f.k4l 1M1g.k4l 1M1h.k4l 1M1i.k4l 1M1j.k4l",
   "1M1k.k4l 1M1l.k4l 1M1d.1c.k4l 1M1d.1d.k4l 1M1d.1e.k4l 1M1d.1f.k4l 1M1d.1g.k4l 1M1d.1h.k4l",
   "1M1d.1i.k4l 1M1d.1j.k4l 1M1d.1k.k4l 1M1d.1l.k4l 1M1e.1c.k4l 1M1e.1d.k4l 1M1e.1e.k4l",
   "1M1e.1f.k4l 1M1e.1g.k4l 1M1e.1h.k4l 1M1e.1i.k4l 1M1e.1j.k4l 1M1e.1k.k4l 1M1e.1l.k4l",
   "1M1f.1c.k4l 1M1f.1d.k4l 1M2v.2p.30 m8dV 3X 1jV 9X 9oV kX 1aE iV sE 1Mui 1Muk 2iV 8X yV eE 2V",
   "1qE 1N1 8V 4E 1M5tl aE 3V 1P1 1V 1Mh1 2V 4E 2V kE 1Mh2 1Mgs 1Mgx 1Mh8 1Mh6 1V 1Mim 1Mhz 1Mil",
   "1Pps gE 1N1c 1Mhu 1M5u6 4E 1Mh0 gE 1Mbf kX 1M37 1M2r 1M2u 1M35 1P1 2V 1M87 1M9f 1fV 3X aV 6X",
   "1kV 8X 1yV 8X cV 6X 38V bX uV 3X 26V 1X bV 4X xV 1X 1jV 9X eV 2X aV 2X 2vV oX sV aX 6V 2X 6V",
   "2X 6V 9X 7V 1X 7V 1X 18V 1Ntx 1N12 1Mh7 1Nd 9V 1Mi5 2V 4X 28Ntzk 1aV 2X aV 6X 8mcV cX nV 4X",
   "1dV 6isX 1Mrpk 1Mkc4 1Ms7e 1Mrt4 1Mlw1 1Mfg2 1Mgkl 2Mvj0 1Mhn5 1Mssx 1Mgw7 1Mhmw 1Mjcm 1Mne1",
   "1Mp6t 1Mqin 1Mqt6 1Mr20 1Msjz 1Mkxu 1Mljv 1Mmah 1Mmvy 1Mq4d 1Msq2 1Muep 1Mfia 1Mghh 1Ml50",
   "1Mmjf 1Mqi5 1Mv8e 1Mifk 1Mm3v 1Mqfh 1Mr50 1Mjih 1Mpnc 1Mqvz 1Miq2 1Mkd3 1Mlm2 1Mmpo 1Mslq",
   "1Mfpi 1Mg53 1Mgda 1Mjwk 1Ml3n 1Mmj4 1Mnhj 1Mpa9 1Mqh2 1Mqjg 1Ms1b 1Mtv6 1Mupb 1Mv7e 1Mnt8",
   "1Mnzz 1Motc 1Mq15 1Mt1g 1Mvb3 1Mrfa 1Mhjz 1Miro 1Mokg 1Mpdq 1Mmle 1Mnuy 1Mrsy 1Mttj 1Mhjs",
   "1Mi8y 1Mkyb 1Mlp6 1Mlxr 1Moq7 1Moxj 1Mtor 1Mgcy 1Mpe3 1Mg64 1Mg5o 1Mo4c 1Mou6 1Mq29 1Mtpx",
   "1Mrk0 1Mjin 1Mkxu 1Mrge 1Mfg9 1Mi5j 1Miz6 1Mmtj 1Mn74 1Mgev 1Mnwb 1Mfr3 1Miw9 1Mff1 1Mlho",
   "1Mk1k 1Mopu 1Mgjn 1Mhge 1Mni9 1Mq4p 1Mre2 1Mla2 1Msds 1Mlfs 1Mjjy 1Mput 1Mjog 1Mn6t 1Mfji",
   "1Mg2x 1Mg5l 1Mkn5 1Moo7 1Mprj 1Mrf6 1Mssv 1Mgdx 1Mgn6 1Mho3 1Mir0 1Mk3p 1Mm4e 1Mnxm 1Mtkd",
   "1Mui2 1Mvbr 1Mvda 1Mgbf 1Mkau 1Ml87 1Msbm 1Mino 1Mj9s 1Mjcw 1Mjve 1Mlyb 1Mmdl 1Mn0p 1Mo22",
   "1Movo 1Mpdb 1Ms9y 1Mq9a 1Msgz 1Mt3e 1Mg7r 1Mgbn 1Mgql 1Mma0 1Mr0i 1Mre2 1Miq1 1Miyd 1Mjnf",
   "1Ml9q 1Moji 1Mmt1 1Mfl0 1Mh6h 1Mi5j 1Miii 1Mizg 1Mmuq 1Mmzt 1Mp7e 1Mpc6 1Msvo 1Mtti 1Mtvs",
   "1Mu1k 1Mfpn 1Mo1a 1Mss4 1Mtrs 1Mj4x 1Mfie 1Mfyy 1Mi5q 1Mi7z 1Mk2h 1Mkxu 1Mmha 1Mncy 1Mq9o",
   "1Msjg 1Mvil 1Mk94 1Mtny 1Mgax 1Mkfv 1Mkj7 1Mlkx 1Mluk 1Mmx5 1Mn6h 1Mnsb 1Mopc 1Mu3i 1Mg31",
   "1Mje6 1Mtq0 1Mfu3 1Mie1 1Mlpm 1Msa2 1Mivf 1Mj7o 1Mkk7 1Mmtj 1Mtqe 1Mg89 1Mglr 1Mi91 1Mk5v",
   "1Mkem 1Mko8 1Mlid 1Mmx2 1Mnaa 1Mp6h 1Mr0v 1Mr1d 1Msss 1Mtsy 1Mgfz 1Mlve 1Mgm5 1Mmhc 1Mn14",
   "1Mqgq 1Mtr7 1Muvr 1Mvbz 1Mkgn 1Mlor 1Mpns 1Mo97 1Mobk 1Molu 1Mmo0 1Mm8p 1Mriw 1Mfk0 1Mpx2",
   "1Mg8q 1Mg7b 1Mip2 1Mjir 1Monq 1Mi2t 1Mljy 1Mkac 1Msaj 1Mqx8 1Mtot 1Mr63 1Miqb 1Mg1s 1Mgxs 2V",
   "1Mhga 1V 1Mk8k 2V 1Mg66 1Mmqy 1Mngq 1Mny4 1Mnz2 1Mnz9 1Mo0f 1Mtw6 1Mon2 1Mp8d 1V 1Mqhe 1V",
   "1Mrg8 2V 1Mshk 1Msn1 3V 1Mu7j 1Mu7w 1Mu94 1Mv5g 1Msm6 1Mtrr 1Mfqm 1Mfzb 1Mg25 1Mgcp 1Mgdg",
   "1Mggh 1Mgwt 1Mgzq 1Mh2g 1Mhfk 1Mhig 1Mi90 1Mi9a 1Mj2s 1Mj8o 1Mj9q 1Mjci 1Mk0f 1Mk4i 1Mk9d",
   "1Mkn9 1Mlmf 1Mlqy 1Mlya 1Mmem 1Mmjv 1Mmxu 1Mntd 1Mny6 1Mnyh 1Mnyg 1Mnyo 1Mnyu 1Mnz1 2Npfp",
   "1Mo5c 1Mo75 1Mog0 1Movo 1Mow9 1Moxt 1Mp6a 1Mpad 1Mpnx 2Mprt 1Mq53 1Mr2o 1Mr6e 1Mrgh 1Mri1",
   "1Mrtf 1Mruw 1Msdy 1Mshk 1Mtsz 1Mu0v 1Mu2j 1Mj1x 1M36cu 1Mpp4 2X 1Mffq 1Mg51 1Mg2w 1Mfpc 1Mg1x",
   "1Mg3k 1Mgcn 1Mge2 1Mgwt 1Mgut 1Mgwp 1Mgyq 1Mhga 1Mhir 1Mhms 1Mhn8 1Mhuq 1Mi08 1Miqa 1Miqh",
   "1Miuh 1Miwd 1Mj4o 1Mj7y 1Mj60 1Mj9q 1Mj8g 1Mjci 1Mjec 1Mjpg 1Mjrw 1Mjte 1Mk0m 1Mk8k 1Mkd3",
   "1Mkd7 1Mkeu 1Ml89 1Mla2 1Mlkx 1Mlwb 1Mlvv 1Mlya 1Mm5a 1Mmem 1Mnmv 1Mmk5 1Mmnj 1Mmqy 1Mn01",
   "1Mn46 1Mn5n 1Mnbx 1Mnbz 1Mngq 1Mnh7 1Mnhw 1Mnka 1Mnk0 1Mnv0 1Mo8h 1Mog0 1Mol7 1Morf 1Movo",
   "1Mp4u 1Mpad 1Mpxu 1Mq27 1Mqrd 1Mr41 1Mr5y 1Mr6e 1Mren 1Mrg8 1Mrez 1Mrgh 1Mrge 1Mrfx 1Mri1",
   "1Mrka 1Mruw 1Msag 1Msj6 1Msrd 1Msxi 1Mtq4 1Mtsz 1Mtw6 1Mtzv 1Mu0v 1Mu17 1Mu2j 1Mumq 1Mvj0",
   "1M313e 1M3138 1M33dh 1Mbrx 1Mcns 1Mcop 1M39e1 1M3bgw 1M3i6r 1Mvgj 1Mvim 12X 1M2u.2u 1M2u.2x",
   "1M2u.30 1M2u.2u.2x 1M2u.2u.30 2M37.38 cX 1M12s.12u 1M12s.12d 1M12s.12j 1M132.12u 1M12s.12l 5X",
   "1M15l.14k 1V 1M16a.14n 1M15u 1M15c 2N1cgf 3N1cg9 1M160 1M162 1M17 1M161.14x 1M161.14y",
   "1M161.14s.14x 1M161.14s.14y 1M15c.14n 1M15c.14o 1M15c.14s 1M15d.14s 1M15e.14s 1M15f.14s",
   "1M15g.14s 1M15h.14s 1M15i.14s 1X 1M15k.14s 1M15l.14s 1M15m.14s 1M15n.14s 1M15o.14s 1X",
   "1M15q.14s 1X 1M15s.14s 1M15t.14s 1X 1M15v.14s 1M15w.14s 1X 1M15y.14s 1M15z.14s 1M160.14s",
   "1M161.14s 1M162.14s 1M15h.14p 1M15d.14v 1M15n.14v 1M15w.14v 1M15c.15o 2M19t 4M1a3 4M1a6 4M1a8",
   "4M1a2 4M1a7 4M1a1 4M1b8 4M1ba 4M1ac 4M1ab 4M1ae 4M1af 2M1al 2M1ak 2M1am 2M1ag 2M1aw 2M1ap",
   "4M1bd 4M1bj 4M1bn 4M1bl 2M1bu 4M1bv 2M1c0 4M1c1 4M1by 2M1ci 2M1cj xV 4M1bh 2M1c7 2M1c6 2M1c8",
   "1M1c7.19w 2M1cb 2M1c5 2M1c9 4M1cg 2M18p 2M17q.17r 2M17q.1cl 2M17q.18o 2M17q.1c7 2M17q.1c6",
   "2M17q.1c8 3M17q.1cg 3M17q.18p 4M1cc 1M17q.17w 1M17q.17x 1M17q.18l 1M17q.18p 1M17q.18q",
   "1M17s.17w 1M17s.17x 1M17s.17y 1M17s.18l 1M17s.18p 1M17s.18q 1M17u.17w 1M17u.17x 1M17u.17y",
   "1M17u.18l 1M17u.18p 1M17u.18q 1M17v.17w 1M17v.18l 1M17v.18p 1M17v.18q 1M17w.17x 1M17w.18l",
   "1M17x.17w 1M17x.18l 1M17y.17w 1M17y.17x 1M17y.18l 1M183.17w 1M183.17x 1M183.17y 1M183.18l",
   "1M185.17x 1M185.18l 1M186.17w 1M186.17x 1M186.17y 1M186.18l 1M187.17x 1M187.18l 1M188.18l",
   "1M189.17w 1M189.18l 1M18a.17w 1M18a.18l 1M18h.17w 1M18h.17x 1M18h.17y 1M18h.18l 1M18h.18p",
   "1M18h.18q 1M18i.17x 1M18i.18l 1M18i.18p 1M18i.18q 1M18j.17r 1M18j.17w 1M18j.17x 1M18j.17y",
   "1M18j.18k 1M18j.18l 1M18j.18p 1M18j.18q 1M18k.17w 1M18k.17x 1M18k.17y 1M18k.18l 1M18k.18p",
   "1M18k.18q 1M18l.17w 1M18l.17x 1M18l.17y 1M18l.18l 1M18l.18p 1M18l.18q 1M18m.17w 1M18m.17x",
   "1M18m.17y 1M18m.18l 1M18m.18p 1M18m.18q 1M18n.17w 1M18n.18l 1M18n.18p 1M18n.18q 1M18q.17w",
   "1M18q.17x 1M18q.17y 1M18q.18l 1M18q.18p 1M18q.18q 1M180.19s 1M181.19s 1M18p.19s 1Mw.18s.18x",
   "1Mw.18t.18x 1Mw.18u.18x 1Mw.18v.18x 1Mw.18w.18x 1Mw.18x.19s 1M17q.181 1M17q.182 1M17q.18l",
   "1M17q.18m 1M17q.18p 1M17q.18q 1M17s.181 1M17s.182 1M17s.18l 1M17s.18m 1M17s.18p 1M17s.18q",
   "1M17u.181 1M17u.182 1M17u.18l 1M17u.18m 1M17u.18p 1M17u.18q 1M17v.181 1M17v.182 1M17v.18l",
   "1M17v.18m 1M17v.18p 1M17v.18q 1M18h.18p 1M18h.18q 1M18i.18p 1M18i.18q 1M18j.17r 1M18j.18k",
   "1M18j.18l 1M18j.18p 1M18j.18q 1M18k.18l 1M18k.18p 1M18k.18q 1M18l.17r 1M18l.18l 1M18m.181",
   "1M18m.182 1M18m.18l 1M18m.18m 1M18m.18p 1M18m.18q 1M18p.19s 1M18q.181 1M18q.182 1M18q.18l",
   "1M18q.18m 1M18q.18p 1M18q.18q 1M17q.17w 1M17q.17x 1M17q.17y 1M17q.18l 1M17q.18n 1M17s.17w",
   "1M17s.17x 1M17s.17y 1M17s.18l 1M17s.18n 1M17u.17w 1M17u.17x 1M17u.17y 1M17u.18l 1M17u.18n",
   "1M17v.18l 1M17w.17x 1M17w.18l 1M17x.17w 1M17x.18l 1M17y.17w 1M17y.18l 1M183.17w 1M183.17x",
   "1M183.17y 1M183.18l 1M185.17x 1M185.17y 1M185.18l 1M186.17w 1M186.17x 1M186.17y 1M186.18l",
   "1M187.17x 1M188.18l 1M189.17w 1M189.18l 1M18a.17w 1M18a.18l 1M18h.17w 1M18h.17x 1M18h.17y",
   "1M18h.18l 1M18i.17x 1M18i.18l 1M18j.17w 1M18j.17x 1M18j.17y 1M18j.18k 1M18j.18l 1M18k.17w",
   "1M18k.17x 1M18k.17y 1M18k.18l 1M18k.18n 1M18l.17w 1M18l.17x 1M18l.17y 1M18l.18l 1M18m.17w",
   "1M18m.17x 1M18m.17y 1M18m.18l 1M18m.18n 1M18n.17w 1M18n.18l 1M18n.19s 1M18q.17w 1M18q.17x",
   "1M18q.17y 1M18q.18l 1M18q.18n 1M17q.18l 1M17q.18n 1M17s.18l 1M17s.18n 1M17u.18l 1M17u.18n",
   "1M17v.18l 1M17v.18n 1M183.18l 1M183.18n 1M184.18l 1M184.18n 1M18j.18k 1M18j.18l 1M18k.18l",
   "1M18m.18l 1M18m.18n 1M18q.18l 1M18q.18n 1M18g.18u.18x 1M18g.18v.18x 1M18g.18w.18x 1M187.18p",
   "1M187.18q 1M189.18p 1M189.18q 1M18a.18p 1M18a.18q 1M183.18p 1M183.18q 1M184.18p 1M184.18q",
   "1M17x.18p 1M17x.18q 1M17w.18p 1M17w.18q 1M17y.18p 1M17y.18q 1M185.18p 1M185.18q 1M186.18p",
   "1M186.18q 1M184.17w 1M184.17x 1M184.17y 1M184.18l 1M184.181 1M183.181 1M185.181 1M186.181",
   "1M187.18p 1M187.18q 1M189.18p 1M189.18q 1M18a.18p 1M18a.18q 1M183.18p 1M183.18q 1M184.18p",
   "1M184.18q 1M17x.18p 1M17x.18q 1M17w.18p 1M17w.18q 1M17y.18p 1M17y.18q 1M185.18p 1M185.18q",
   "1M186.18p 1M186.18q 1M184.17w 1M184.17x 1M184.17y 1M184.18l 1M184.181 1M183.181 1M185.181",
   "1M186.181 1M184.17w 1M184.17x 1M184.17y 1M184.18l 1M183.18n 1M184.18n 1M187.18l 1M183.17w",
   "1M183.17x 1M183.17y 1M184.17w 1M184.17x 1M184.17y 1M187.18l 1M188.18l 2M17r.18r iV",
   "1M17u.17w.18l 2M17u.17x.17w 1M17u.17x.18l 1M17u.17y.18l 1M17u.18l.17w 1M17u.18l.17x",
   "1M17u.18l.17y 2M17w.18l.17x 1M17x.18l.18q 1M17x.18l.18p 1M183.17x.17w 1M183.17w.17x",
   "1M183.17w.18p 2M183.18l.17x 1M183.18l.17w 2M183.18l.18l 2M185.17x.17x 1M185.18l.18l",
   "2M184.17x.18l 1M184.17w.18q 2M184.18l.17y 2M184.18l.18l 1M186.17x.18p 2M186.17y.18l",
   "2M187.18l.17x 1M187.18l.18l 1M187.18l.18q 1M189.17w.18l 2M189.18l.18l 1M189.18l.18p",
   "1M18a.18l.18l 1M18a.18l.18q 1M18a.18l.18p 2M18h.17y.18l 1M18i.18l.17x 1M18i.18l.18l",
   "1M18k.17x.18l 1M18k.17x.18q 1M18k.17x.18p 2M18k.17w.17w 2M18k.17y.18l 2M18k.18l.17x",
   "1M18l.17x.17w 1M18l.17x.18l 1M18l.17x.18q 1M18l.17w.17x 1M18l.17w.18l 1M18l.17y.17w",
   "1M18l.17y.18l 2V 1M18l.17w.17y 1M18n.18l.17w 1M18n.18l.18l 1M18m.17x.18l 1M18m.17x.18p",
   "2M18m.17w.18l 1M18m.17w.18p 1M18m.18l.18q 1M18m.18l.18p 2M18q.18l.18l 1M17s.17y.18q",
   "1M17u.17w.18q 1M17u.17w.18p 1M17u.17y.18q 1M17u.17y.18p 1M17u.18l.18q 1M17u.18l.18p",
   "1M17w.18l.18q 1M17w.17x.18p 1M17w.18l.18p 1M183.17y.18p 1M185.17x.18q 1M184.17x.18q",
   "1M186.17x.18q 1M18k.17w.18q 1M18k.18l.18q 1M18q.17x.18q 1M18q.17w.18q 1M18q.18l.18q",
   "1M18l.18l.18q 1M18i.18l.18q 1M18m.17x.18q 1M18i.18l.17x 1M18k.17x.18l 1M189.18l.18q",
   "1M18j.18l.18q 1M18m.17w.17x 1M18l.17y.18q 1M18k.17w.18l 1M18j.18l.18l 1M18k.17w.18l",
   "1M18m.17w.17x 1M17w.17x.18q 1M17x.17w.18q 1M18l.17w.18q 1M18h.18l.18q 1M17s.17x.18q",
   "1M18j.18l.18l 1M189.17w.18l 1M185.18l.18l 1M183.17y.18q 1M18m.17w.18q 8V wX 1M185.18k.1ci",
   "1M18i.18k.1ci 1M17r.18k.18k.18n 1M17r.18j.17s.181 1M18l.17x.18l.17z 1M185.18k.189.18l",
   "1M181.183.18o.18k 1M189.18k.18q.18n 1M18o.183.18k.18l 1M185.18k.18p",
   "1M185.18k.18p.w.17r.18k.18k.18n.w.189.18k.18q.18n.w.18o.183.18k.18l",
   "1M17w.18k.w.17w.18k.17r.18k.18n 1M181.1cc.17r.18k 3V gI 1M18 1M9hd 1X 2N1e55 1Mx 1M1r 2N14ox",
   "7X gV 1X 1M6c4 1M6c3 2M2n 2N1e6l 1M3f 1M3h 2N14px 2N14q3 2N14qb 2N14qf 4N14qd 2V 1M2j 1M2l",
   "4Mw.lh 3M2n 1M18 1M9hd 2X 1M1n 1M1m 1M1r 1Mx 1M6c4 2N1e7l 1M3f 1M3h 2N14qx 1Mz 1M12 2N1e7r",
   "1M19 1M1o 1M1q 1M1p 1X 1M2k 2N1e85 1M1s 4X 1Mw.18r 1M18g.18r 1Mw.18s 1V 1Mw.18t 1X 1Mw.18u",
   "1M18g.18u 1Mw.18v 1M18g.18v 1Mw.18w 1M18g.18w 1Mw.18x 1M18g.18x 1Mw.18y 1M18g.18y 2N1d27",
   "2N1d28 2N1d29 2N1d2a 2N1d2b 3M17q 2M17r 4M17s 2M17t 4M17u 4M17v 4M17w 4M17x 4M17y 2M17z 2M180",
   "2M181 2M182 4M183 4M184 4M185 4M186 4M187 4M188 4M189 4M18a 4M18h 4M18i 4M18j 4M18k 4M18l",
   "4M18m 4M18n 2M18o 2M18p 4M18q 2M18k.17m 2M18k.17n 2M18k.17p 2M18k.17r 2X 1I 1X wN1ecg qN1ebk",
   "10N1ecg 2N168q 1M1a 2N14ye 1M9hd 1M9ob 1M9o2 1M9lt 1M9lv 1M9lx 1M9lz 1M9m1 1M9nn 1M9np 1M9nr",
   "1M9mr 1M9oc 1M9lu 1M9lw 1M9ly 1M9m0 2N14uj 1M9m5 1M9m7 1M9m9 1M9mb 1M9md 1M9mf 1M9mh 1M9mj",
   "1M9ml 1M9mn 1M9mp 1M9ms 1M9mu 1M9mw 6N14u3 1M9n6 1M9n9 1M9nc 1M9nf 5N14tt 1M9no 1M9nq 6N14tq",
   "1M9nz 1M9o3 2N14w5 1I 2N1b4x 1M3hm 1M3cy 2N1b09 3N1b50 6N1b0a 1M3dm 3N1b57 1M3dt aN1b58 3X",
   "6N1b35 2X 6N1b37 2X 6N1b39 2X 3N1b3b 3X 2N1ef2 1M4s 1Mw.lg 1M4m 1M4l 1M6g9 1X 1M7b6 4N17x5",
   "1M7fk 1M7gr hX cV 1X qV 1X jV 1X 2V 1X fV 2X eV yX 3fV 5X 3V 4X 19V 3X 2gV 1X dV 3X 1V 1bX 1aV",
   "3mX tV 3X 1dV fX sV 4X 10V 9X uV 5X 17V 5X uV 1X 11V 4X eV 16X 14P14 3aV 2X aV 6X 10P14 4X 10V",
   "4X 14V 8X 1gV bX 1V bP13 1X fP13 1X 7P13 1X 2P13 1X bV 1X fV 1X 7V 1X 2V 3X 1gV cX 8nV 9X mV",
   "aX 8V oX 1V 2N1fht 1M6e 1Mih 1Mgj 1X 1Mir 1Mxuu 1Mit 1Mis 2N1flh 1M5u9 1Mgo 1Mgu 1Mix 1Mh0",
   "1Mgy 1Mgw 1Mij 1M87 1Mik 1Mh3 1Mhw 2N1fjj 1Mh8 1M2mmc 1Mx3i 1Mha 1M2mmd 1Mi6 1M2mme 1M6w",
   "2N1fl9 1M35 1Mhm 1M2mmg 2N1fl7 1Mhs 1Miw 1Miu 1Mxuv 1Miv 1Mi0 1M8s1 1X 1Mi7 2N1fki 1Mig 3N1fqu",
   "1M2mmi 1M2mn2 1xX 6V 2X 1V 1X 18V 1X 2V 3X 1V 2X nV 1X 20V 8X 9V 1cX jV 1X 2V 5X xV 3X rV 5X",
   "rV 12X 1kV 4X kV 2X 1eV 1X 2V 5X 8V 1X 3V 1X tV 2X 3V 4X aV 7X 9V 7X 1sV wX 13V 4X cV 9X 1iV",
   "3X tV 2X rV 5X qV 7X 4V cX 7V 28X 21V 1jX 1fP1s dX 1fV 7X 1aV 8X aV 6X gV mPw 3X tV 8X 2V 5sX",
   "vV 1X 16V 1X 3V 2X 2V gX 6V 8X 9V xX 1aV 8X 16V mX qV 12X sV kX nV 9X 26V 4X 10V 9X 1qV 1X 5V",
   "dX pV 7X aV 6X 1hV 1X iV 8X 13V 9X 2oV 1X kV bX iV 1X 1bV 1qX 7V 1X 1V 1X 4V 1X fV 1X bV 6X",
   "1nV 5X aV 6X 4V 1X 8V 2X 2V 2X mV 1X 7V 1X 2V 1X 5V 1X aV 2X 2V 2X 3V 2X 1V 6X 1V 5X 7V 2X 7V",
   "3X 5V bX aV 1X 1V 2X 1V 1X 12V 1X aV 1X 1V 2X 1V 1X 4V 1X aV 1X 2V 8X 2V tX 2kV 1X 5V uX 20V",
   "8X aV 4mX 1iV 2X 12V yX 1xV bX aV 6X dV jX 1mV 6X aV 6X kV sX rV 2X fV 4X nV 55X 1oV 2sX wPw",
   "1fV cX 8V 2X 1V 2X 8V 1X 2V 1X uV 1X 2V 2X cV 9X aV 1yX 8V 2X 1aV 2X bV rX 20V 8X 2bV dX 21V",
   "7X aV 2eX 8V 2gX yV eX aV 6X 9V 1X 19V 1X eV aX tV 3X wV 2X mV 1X eV 21X 7V 1X 2V 1X 18V 3X 1V",
   "1X 2V 1X 9V 8X aV 6X 6V 1X 2V 1X 11V 1X 2V 1X 6V 7X aV 6X 18V 4X aV 6uX pV 7X hV 1X 15V 3X tV",
   "2dX 1V fX 1eV dX pnV 2uX 33V 1X 5V bX 5gV 218X 2rV dX tsV gX mV aX 32zV 5X g7V 5a1X 1mV 1c6X",
   "ftV 7X vV 1X aV 4X 29V 1X aV 6X uV 2X 6V aX 1yV aX aV 1X 7V 1X lV 5X jV c0X 1mV 5iX wPw 1nV 5X",
   "pPr 2X pV 18X 23V 4X 1lV 7X hV 1sX 5V bX 7V 9X 5p2V 15X wV 2pX 37V 6ppX 4V 1X 7V 1X 2V 1X 83V",
   "fX 1V tX 3V 2X 1V eX 4V 8X b0V 1s4X 2zV 5X dV 3X 9V 7X aV 2X 4V 4I 318X 5yV qN2iyd aN2j0g 3V",
   "3X c4V 6X nV fX hV fX 1aV 2X nV 9X 38V 1oX 6uV aX 13V 2X 1hV 1M2jx3.2jxh 1M2jx4.2jxh",
   "1M2jx4.2jxh.2jxq 1M2jx4.2jxh.2jxr 1M2jx4.2jxh.2jxs 1M2jx4.2jxh.2jxt 1M2jx4.2jxh.2jxu eV 8I 1sV",
   "1M2jzt.2jxh 1M2jzu.2jxh 1M2jzt.2jxh.2jxq 1M2jzu.2jxh.2jxq 1M2jzt.2jxh.2jxr 1M2jzu.2jxh.2jxr",
   "16V lX 1yV 3eX kV cX kV cX 2fV 9X pV 3rX qN2kdb qN2ke1 qN2ker 7N2kfh 1X iN2kfh qN2kg7 qN2kgx",
   "1M2p 1X 2N2khn 2X 1M2v 2X 2N2khn 2X 4N2khn 1X 8N2khn 4N2kid 1X 1M2u 1X 7N2kid 1X bN2kid qN2kj3",
   "qN2kjt 2N2kkj 1X 4N2kkj 2X 8N2kkj 1X 7N2kkj 1X qN2kl9 2N2klz 1X 4N2klz 1X 5N2klz 1X 1M33 3X",
   "7N2klz 1X qN2kmp qN2knf qN2ko5 qN2kov qN2kpl qN2kqb qN2kr1 qN2krr qN2ksh qN2kt7 qN2ktx qN2kun",
   "qN2kvd 1M8h 1Mfr 2X hN2k8n 1Mqg 7N2k8n 1M6pz hN2k9d 2Mqr 6N2k9d 1M6pu 1Mqd 1Mqg 1Mqi 1Mqu 1Mqp",
   "1Mqo hN2ka9 1Mqg 7N2ka9 1M6pz hN2kaz 2Mqr 6N2kaz 1M6pu 1Mqd 1Mqg 1Mqi 1Mqu 1Mqp 1Mqo hN2kbv",
   "1Mqg 7N2kbv 1M6pz hN2kcl 2Mqr 6N2kcl 1M6pu 1Mqd 1Mqg 1Mqi 1Mqu 1Mqp 1Mqo hN2kdh 1Mqg 7N2kdh",
   "1M6pz hN2ke7 2Mqr 6N2ke7 1M6pu 1Mqd 1Mqg 1Mqi 1Mqu 1Mqp 1Mqo hN2kf3 1Mqg 7N2kf3 1M6pz hN2kft",
   "2Mqr 6N2kft 1M6pu 1Mqd 1Mqg 1Mqi 1Mqu 1Mqp 1Mqo 2Mrh 2X aN2l5q aN2l60 aN2l6a aN2l6k aN2l6u i4V",
   "fX 5V 1X fV uoX vV 6X 6V 5xX 7V 1X hV 2X 7V 1X 2V 1X 5V 5X 9N2m0w 3N2m0v bN2m0u 1Muj 2N2m0r",
   "1Mww9 1Myh 1Muu 1Muw 1Myx 1Mxb 1My7 9N2m1t 2N2m1s 2N2m1q 1Mu9 6N2m1o 2N2m1n 1Mwh 1Muu 1Mut",
   "1Mv3 1Mx7 1Mwup 1Mxd xX 1V 34X 19V 3X eV 2X aV 4X 2V 8wX vV hX 1mV 5X 1V cwX 16V 5yX 17V 4X 1V",
   "5cX vV 1X mV 8X 2V 68X 7V 1X 4V 1X 2V 1X fV 1X 5hV 2X gV 15X yPy 16V 4X aV 4X 2V ltX 1wV 24X",
   "1pV 5eX 2N2od5 1M17w 1M17z 1X 1M18o 1M182 1M17x 1M187 1M18q 4N2ocn 1M183 1M189 1M18h 1M185",
   "1M18i 1M181 1M184 2N2odn 1M17y 1M180 1M186 1M188 1M18a 1M19q 1M1bu 1M1b5 1M19r 1X 1M17s 1M17w",
   "1X 1M18n 2X 1M17x 1X 1M18q 4N2odj 1M183 1M189 1M18h 1M185 1M18i 1X 1M184 2N2oej 1M17y 1X 1M186",
   "1X 1M18a 6X 1M17w 4X 1M17x 1X 1M18q 1X 1M18k 1X 1M18m 1M183 1M189 1X 1M185 1M18i 1X 1M184 2X",
   "1M17y 1X 1M186 1X 1M18a 1X 1M1bu 1X 1M19r 1X 1M17s 1M17w 1X 1M18n 2X 1M17x 1M187 1M18q 1M18j",
   "1X 2N2ofb 1M183 1M189 1M18h 1M185 1M18i 1X 1M184 2N2ogb 1M17y 1X 1M186 1M188 1M18a 1M19q 1X",
   "1M1b5 1X 2N2ogp 1M17w 1M17z 2N2ofx 1M182 1M17x 1M187 1M18q 1X 3N2og7 1M183 1M189 1M18h 1M185",
   "1M18i 1M181 1M184 2N2oh7 1M17y 1M180 1M186 1M188 1M18a 5X 1M17s 1M17w 1M17z 1X 1M18o 1M182",
   "1M17x 1M187 1M18q 1X 3N2oh3 1M183 1M189 1M18h 1M185 1M18i 1M181 1M184 2N2oi3 1M17y 1M180 1M186",
   "1M188 1M18a 1gX 2V 7iX 18V 4X 2sV cX fV 2X fV 1X fV 1X 11V bX 1M1c.18 1M1d.18 1M1e.18 1M1f.18",
   "1M1g.18 1M1h.18 1M1i.18 1M1j.18 1M1k.18 1M1l.18 5V 1M14.2p.15 1M14.2q.15 1M14.2r.15 1M14.2s.15",
   "1M14.2t.15 1M14.2u.15 1M14.2v.15 1M14.2w.15 1M14.2x.15 1M14.2y.15 1M14.2z.15 1M14.30.15",
   "1M14.31.15 1M14.32.15 1M14.33.15 1M14.34.15 1M14.35.15 1M14.36.15 1M14.37.15 1M14.38.15",
   "1M14.39.15 1M14.3a.15 1M14.3b.15 1M14.3c.15 1M14.3d.15 1M14.3e.15 1M9hw.37.9hx 1M2r 1M36",
   "1M2r.2s 1M3b.3e 1V qN2q4v 1M2w.3a 1M31.3a 1M37.2s 1M37.37 1M34.34.3a 1M3b.2r qV 1M31.2r",
   "1M31.2s 1M31.36 zV 1M2s.2y tV 1kX qV 1M9kr.9jf 1M9mb.9mb 1M9md dX 1Mjez 1Mi1j 1Mgjw 1M9mv",
   "1Mfik 1Mhlm 1Mr8j 1Mhm1 1Mfj8 1Mk68 1Mmch 1Mk2h 1Mg99 1Mivg 1Mg3x 1Mk34 1Mg7x 1Moqq 1Mn4v",
   "1Mrs9 1Mhkg 1Mgmx 1Mlxw 1Mjh1 1Mjmd 1Mfeo 1Mfex 1Msi2 1Mijq 1Mffx 1Mgkz 1Mjk7 1Mrxs 1Mjf7",
   "1Mo01 1Mo6y 1Mglk 1Mlts 1Mkcp 1Mkco 1Mn5f 1Mgaa 1Mgxi 1Msp9 4X 1M9hw.kdo.9hx 1M9hw.fex.9hx",
   "1M9hw.fik.9hx 1M9hw.i2x.9hx 1M9hw.m9l.9hx 1M9hw.jf7.9hx 1M9hw.nh3.9hx 1M9hw.gd9.9hx",
   "1M9hw.k0n.9hx 7X 1Mivr 1Mgkv eX 6V 4aX rdV 3X hV 3X dV 3X 62V 6X cV 4X 1V fX cV 4X 1kV 8X aV",
   "6X 14V 8X uV 2X cV 4X 2V eX 9V 13X 9kV 8X eV 2X dV 3X bV 3X 1lV 1X 1V 4X gV 2X cV 4X aV 7X 43V",
   "1X 2kV aN2sao 1V slX wyoV wX 3dqV 2X 4geV 2X 5rlV fX haV 1wiX 1Mfgd 1Mfg8 1Mfgh 1M2tcy 1Mfog",
   "1Mfqm 1Mfqz 1Mfsy 1Mfwa 1Mfx5 1Mfzb 1Mfyn 1Mae6 1M2ud6 1Mg25 1Mg2c 1Mg2s 1Mg3b 1M2u58 1Maex",
   "1Mg2v 1Mg3x 1M2u6j 1Mg47 1Mg4k 1Mfkc 1Mg4s 1Mg51 1Nk71 1Mg6t 1Mg77 1Mafz 1Mg8r 1Mg92 1Mgaa",
   "1Mgaf 1Mahh 1Mgcn 1Mgcp 1Mgdg 1Mge2 2N3pr8 1Mgev 1Mgg9 1Mggh 1Mggq 1Mghf 1Mghp 3Mghr 1M2v58",
   "1Mm7k 1Mgju 1Mgkf 1M2vdv 1Mgkr 1Mgkx 1Mgli 1Mgpq 1Mgmw 1Mgnc 1Mgo8 1Mgpu 1Mgs6 1Mgsw 1Mgur",
   "1Mgv7 2Mgw4 1Mgwp 1Mgx7 1Mgxf 1Mgxu 1Mh7a 1Mgzq 1Mh7b 1Mh1t 1Mh2s 1Mg7b 1Mhke 1Mhce 1Mhdg",
   "1Mhe5 1Mhaj 1Mhf6 1Mhf5 1Mhik 1M2x9g 1Mhki 1Mhkn 1Mhl2 1Mhlm 1Mhlu 1Mhnm 1M2xm0 1M2xnu 1Mhrg",
   "1Mhsr 1Mht3 1Mhqw 1Mhuu 1Maum 1Mav0 1Mhzc 2Mi0u 1M2y88 1Mi4j 1Mi54 1Mi5j 1Mi5v 1M2yhk 1Mi67",
   "1Mi6e 1Mitv 1Mi76 1Mayp 1Mi8w 1Mi9a 1Mibk 1Mia5 1M2z1g 1Mif7 1M2z1i 1Mige 1Migb 1Migs 2N3nog",
   "1Mb3j 1Mikd 1Milk 1Mim5 1Mind 1Mb4y 1M2zr7 1Mb5o 1Mipc 1Mipf 1Mipi 1Miq2 1Ngsd 1Miri 2M3035",
   "1Mpoh 2Misi 1Mb7r 1M335k 1Ntry 1Miua 1Miuj 1Mb8j 1Mivu 1Mix9 1Mixj 1Miyh 1Mj29 1Mbay 1Mba4",
   "1Mj2s 1M30t0 1Mj47 1Mj7s 1Mj7w 1Mj7y 1Mj7w 1Mj96 1Mj9q 1Mjaq 1Mjac 1Mjan 1Mjby 1Mjci 1Mjcm",
   "1Mjdc 1Mjdn 1Mjfh 1Mjht 1Mjis 1Mjm8 1M31n0 1Mjlp 1Mjjw 1Mjmw 1Mjnn 1Mjqc 1M31td 1Mjs2 1Mjph",
   "1Mjop 1Mbhq 1Mju1 1Mjum 1Mjvh 1Mjuf 1Mbjg 1Mk0f 1Mk18 1M32mi 1Mk4j 1Mkc8 1Mk7d 1Mbo9 1Mk9d",
   "1Mbns 1Mbms 1Mg42 1Mg45 1Mkcg 1Mk9o 1Mpf1 1Mdeh 1Mkd3 1Mkd7 1Mkdd 1Mkf2 1Mker 1M33cz 1Mbpl",
   "1Mkje 1Mkg5 1Mklu 1Mkn9 1M33hp 1Mkni 1Mkkf 1Mkr8 1Mbrx 1Mksi 1Mkv7 1Mkx6 1Ml2g 1M33xf 1Ml3v",
   "1Mbvc 1Ml5t 1M34br 1Ml78 1Mbwu 1Ml82 1Ml9b 2N3l17 1M34p9 1M2yvf 1M34sa 1Mle6 1M354s 1Mlhb",
   "1Mlhp 1Mlev 1Mljq 1Mlku 1Mlmf 1Mlkx 1Mlm1 1Mlmg 1Mlmt 1M357i 1Mlkk 1Mlrj 1Mlta 1Mc37 1Mlvv",
   "1Mlvr 1M35jl 1Mlq1 1Mm0e 1M35ni 1M35ou 1Mm2u 1Mm61 1Mm5a 1Mm57 1Mc5y 1Mm6i 1Mm7x 1Mm7r 1Mm99",
   "1M2u5h 1Mmdh 1M368z 1Mmfw 1Nzuc 1Mmjs 1Mmk5 1Mmkw 1Nzdn 1Mmm8 1Mmmt 1Nz5d 1Nyz7 1Mmt6 1Mmtn",
   "1Mcdo 1Mmud 2Mce0 1Mmyv 1Mmzg 1Mn01 1Mn0l 1Mn2i 1Mcgr 1Mn50 1Ny67 1Mn5q 1Ny3p 1Mn74 1M2zrz",
   "1Mnbk 1Nxi2 1Nxhg 1Nxdl 1Mcn0 1Mcnc 1Mnhw 1Nx8u 1Nx8w 1Nx7u 1Nx75 2N3iuf 1Mnj3 1Mnka 1Mcop",
   "1Mnm3 1Mcp2 1Mcra 1Nwmo 1Mnri 1Mnt8 1Mnv0 1Mctf 1Nw8c 1Mnyu 1Nw56 1Nw40 1Mo0f 1Mo2z 1Mcvj",
   "1Mo5c 1Mo5m 1Mo5r 1Nvkw 2M3b1j 1Moa6 1Md1e 1Nv5i 1Mog6 1Mog9 1Md2f 1Nuzp 1Monm 1Md5s 1Moo8",
   "1Moo3 1Moow 1Nued 1Morn 1Md8h 1Mouf 1Mow2 1Moxx 1Md9w 1Ntvu 1Ntv0 1Mdax 1Ntr0 1Mp6i 1Nto9",
   "1Mp79 1Mpa2 1Mpad 1Ntcx 1Ntax 1Mpcw 1Nt7a 1Mpdc 1M33a7 1Mded 1Mpf6 1Mphf 1Mdfv 1Mpj2 1Mhx1",
   "1Nstc 1Nssz 1M33bn 1M33bw 1Mpoh 1Mpok 1Msda 1Mdij 1Mpsh 1Mpsb 1Mpst 1Mgc3 1Mptd 1Mptf 1Mptp",
   "1Mpuu 1Ns4b 1Mput 1Mpwd 1Mpyb 1Mq0d 1Mpwj 1Mq0t 1Mq1z 1Mq53 1Mpxv 1Mq16 1Mq18 1Mq1o 1Nrxq",
   "1Nrp6 1Nrtd 1Mdnv 1Mq9d 1Mq9f 1Mqae 1Nqg1 1Mqck 1Nrcx 1Mdp9 1Mdpd 1Nr9b 1Nr1b 1Mdpn 1Mqj4",
   "1Mqjg 1Mqjr 1Mqjt 1Mqll 1Mqko 1Mqoe 1Mqn6 1Mqrd 1Mqp4 1Mqqz 1Mqrq 1Mdsn 1Mqu9 1Mqv5 1Mdtl",
   "1Mqxs 1Mqxv 1Npy6 1Mr13 1Mr1a 1Mdv9 1Mr22 1Maez 1Npi5 1Npd2 1Mdz2 1Mdzb 1Mrds 1Mrfx 1Mrka",
   "1Mrpx 1Noq3 1Mrsb 1Mrsx 1Mrvf 1Mrxz 1No89 1M2upw 1Ms0b 1Mrzw 1Ms1c 1M2uvy 1Ms7o 1Msag 1Nmxa",
   "1Nmwk 1Msk4 1Msmp 1Msnl 1Nmnr 1Msnv 1Msvs 2N3dht 1Msxo 1Mt89 1Mt91 1Nlpv 1Mtjf 1Mej9 1Mtkn",
   "1Nlfe 1Meli 1Mts3 1Miia 1Mtur 1Nkoh 1Nkil 1Mepa 1Mepi 1Mu00 1Nk4x 1Mer6 1Nk13 2Mu17 1Mu21",
   "1Njt7 1Mu76 1Meur 1Mu95 1Mucn 1Mude 1Muf2 1Mez2 1Niqh 1Mumq 1Muv4 1Mv0d 1Mf66 1Mf71 1Mv3b",
   "1Nhmq 1Mf7c 1Nhl9 1Nhdx 1Nhab 1Mvcr 1Mf9y 1Mveh 1Mvem 1Mvet 1Mvf3 1Mvfa 1Mvgb 1Ngm5 15uX 3t7V",
   "5X 6juV f62uX 6oI 47bkX"]

/-- The runs of the mapping. The lines are read once. -/
def domainMappingRuns : Runs :=
  .parse domainMappingText

end FlowAudit.Unicode
