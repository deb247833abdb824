import ValuePipeline.Text.CharSet

/-!
# Case tables

Upper and lower case forms of single characters, where they differ from the
character, and the classes of characters that only case tells apart.  An entry
is the distance from the entry before and then the code points of the form, all
in base 36 and parted by points.
-/

namespace ValuePipeline.Text.CaseTable

private def groups (table : String) : List (List Nat) :=
  (words Char.isWhitespace table.toList).map fun group => (words (· = '.') group).map number36

private def entries (table : String) : Array (Nat × List Char) :=
  ((groups table).foldl (fun (state : Nat × Array (Nat × List Char)) group =>
    match group with
    | gap :: form => (state.1 + gap, state.2.push (state.1 + gap, form.map Char.ofNat))
    | [] => state) (0, #[])).2

def upper : Array (Nat × List Char) := entries
  "2p.1t 1.1u 1.1v 1.1w 1.1x 1.1y 1.1z 1.20 1.21 1.22 1.23 1.24 1.25 1.26 1.27 1.28 1.29 1.2a
    1.2b 1.2c 1.2d 1.2e 1.2f 1.2g 1.2h 1.2i 1n.po 16.2b.2b 1.5c 1.5d 1.5e 1.5f 1.5g 1.5h 1.5i
    1.5j 1.5k 1.5l 1.5m 1.5n 1.5o 1.5p 1.5q 1.5r 1.5s 1.5t 1.5u 1.5v 1.5w 1.5x 1.5y 2.60 1.61
    1.62 1.63 1.64 1.65 1.66 1.ag 2.74 2.76 2.78 2.7a 2.7c 2.7e 2.7g 2.7i 2.7k 2.7m 2.7o 2.7q
    2.7s 2.7u 2.7w 2.7y 2.80 2.82 2.84 2.86 2.88 2.8a 2.8c 2.8e 2.21 2.8i 2.8k 2.8m 3.8p 2.8r
    2.8t 2.8v 2.8x 2.8z 2.91 2.93 1.jg.26 2.96 2.98 2.9a 2.9c 2.9e 2.9g 2.9i 2.9k 2.9m 2.9o
    2.9q 2.9s 2.9u 2.9w 2.9y 2.a0 2.a2 2.a4 2.a6 2.a8 2.aa 2.ac 2.ae 3.ah 2.aj 2.al 1.2b 1.g3
    3.aq 2.as 3.av 4.az 6.b5 3.dy 4.bc 1.fx 1.x5o 3.f4 3.bk 2.bm 2.bo 3.br 5.bw 3.bz 4.c3 2.c5
    3.c8 4.cc 2.dz 6.ck 1.ck 2.cn 1.cn 2.cq 1.cq 2.ct 2.cv 2.cx 2.cz 2.d1 2.d3 2.d5 2.d7 1.b2
    2.da 2.dc 2.de 2.dg 2.di 2.dk 2.dm 2.do 2.dq 1.22.lo 2.dt 1.dt 2.dw 4.e0 2.e2 2.e4 2.e6
    2.e8 2.ea 2.ec 2.ee 2.eg 2.ei 2.ek 2.em 2.eo 2.eq 2.es 2.eu 2.ew 2.ey 2.f0 2.f2 4.f6 2.f8
    2.fa 2.fc 2.fe 2.fg 2.fi 2.fk 2.fm 9.fv 3.8se 1.8sf 2.g1 5.g6 2.g8 2.ga 2.gc 2.ge 1.8rz
    1.8rx 1.8s0 1.ap 1.au 2.ax 1.ay 2.b3 2.b4 1.x4b 4.b7 1.x4c 2.b8 1.x57 1.x3h 1.x4a 2.bb 1.ba
    1.x4e 1.8rm 1.x4d 3.bg 2.8ry 1.bh 3.bj 8.8ro 3.bq 2.x51 1.bt 4.x4h 1.by 1.g4 1.c1 1.c2 1.g5
    6.c7 b.x4i 1.x4g 4n.pl 18.og 2.oi 4.om 4.sd 1.se 1.sf j.pl.lk.ld s.p2 1.p4 1.p5 1.p6
    1.px.lk.ld 1.pd 1.pe 1.pf 1.pg 1.ph 1.pi 1.pj 1.pk 1.pl 1.pm 1.pn 1.po 1.pp 1.pq 1.pr 1.ps
    1.pt 1.pv 1.pv 1.pw 1.px 1.py 1.pz 1.q0 1.q1 1.q2 1.q3 1.p8 1.pa 1.pb 2.pe 1.pk 4.py 1.ps
    1.r3 2.rc 2.re 2.rg 2.ri 2.rk 2.rm 2.ro 2.rq 2.rs 2.ru 2.rw 2.ry 1.pm 1.pt 1.s9 1.ov 2.ph
    3.s7 3.sa 1h.sw 1.sx 1.sy 1.sz 1.t0 1.t1 1.t2 1.t3 1.t4 1.t5 1.t6 1.t7 1.t8 1.t9 1.ta 1.tb
    1.tc 1.td 1.te 1.tf 1.tg 1.th 1.ti 1.tj 1.tk 1.tl 1.tm 1.tn 1.to 1.tp 1.tq 1.tr 1.sg 1.sh
    1.si 1.sj 1.sk 1.sl 1.sm 1.sn 1.so 1.sp 1.sq 1.sr 1.ss 1.st 1.su 1.sv 2.v4 2.v6 2.v8 2.va
    2.vc 2.ve 2.vg 2.vi 2.vk 2.vm 2.vo 2.vq 2.vs 2.vu 2.vw 2.vy 2.w0 a.wa 2.wc 2.we 2.wg 2.wi
    2.wk 2.wm 2.wo 2.wq 2.ws 2.wu 2.ww 2.wy 2.x0 2.x2 2.x4 2.x6 2.x8 2.xa 2.xc 2.xe 2.xg 2.xi
    2.xk 2.xm 2.xo 2.xq 3.xt 2.xv 2.xx 2.xz 2.y1 2.y3 2.y5 1.xs 2.y8 2.ya 2.yc 2.ye 2.yg 2.yi
    2.yk 2.ym 2.yo 2.yq 2.ys 2.yu 2.yw 2.yy 2.z0 2.z2 2.z4 2.z6 2.z8 2.za 2.zc 2.ze 2.zg 2.zi
    2.zk 2.zm 2.zo 2.zq 2.zs 2.zu 2.zw 2.zy 2.100 2.102 2.104 2.106 2.108 2.10a 2.10c 2.10e
    2.10g 2.10i 2.10k 2.10m 2.10o 2.10q 2.10s 2.10u 1e.10x 1.10y 1.10z 1.110 1.111 1.112 1.113
    1.114 1.115 1.116 1.117 1.118 1.119 1.11a 1.11b 1.11c 1.11d 1.11e 1.11f 1.11g 1.11h 1.11i
    1.11j 1.11k 1.11l 1.11m 1.11n 1.11o 1.11p 1.11q 1.11r 1.11s 1.11t 1.11u 1.11v 1.11w 1.11x
    1.11y 1.111.11u 289.5n4 1.5n5 1.5n6 1.5n7 1.5n8 1.5n9 1.5na 1.5nb 1.5nc 1.5nd 1.5ne 1.5nf
    1.5ng 1.5nh 1.5ni 1.5nj 1.5nk 1.5nl 1.5nm 1.5nn 1.5no 1.5np 1.5nq 1.5nr 1.5ns 1.5nt 1.5nu
    1.5nv 1.5nw 1.5nx 1.5ny 1.5nz 1.5o0 1.5o1 1.5o2 1.5o3 1.5o4 1.5o5 1.5o6 1.5o7 1.5o8 1.5o9
    1.5oa 3.5od 1.5oe 1.5of l5.3xs 1.3xt 1.3xu 1.3xv 1.3xw 1.3xx 1oj.sy 1.t0 1.ta 1.td 1.te
    1.te 1.tm 1.v6 1.wui 2.5mx 6n.x31 4.8rn h.x52 37.5xc 2.5xe 2.5xg 2.5xi 2.5xk 2.5xm 2.5xo
    2.5xq 2.5xs 2.5xu 2.5xw 2.5xy 2.5y0 2.5y2 2.5y4 2.5y6 2.5y8 2.5ya 2.5yc 2.5ye 2.5yg 2.5yi
    2.5yk 2.5ym 2.5yo 2.5yq 2.5ys 2.5yu 2.5yw 2.5yy 2.5z0 2.5z2 2.5z4 2.5z6 2.5z8 2.5za 2.5zc
    2.5ze 2.5zg 2.5zi 2.5zk 2.5zm 2.5zo 2.5zq 2.5zs 2.5zu 2.5zw 2.5zy 2.600 2.602 2.604 2.606
    2.608 2.60a 2.60c 2.60e 2.60g 2.60i 2.60k 2.60m 2.60o 2.60q 2.60s 2.60u 2.60w 2.60y 2.610
    2.612 2.614 2.616 2.618 2.61a 2.61c 2.61e 2.61g 1.20.mp 1.2c.lk 1.2f.lm 1.2h.lm 1.1t.ji
    1.600 6.61s 2.61u 2.61w 2.61y 2.620 2.622 2.624 2.626 2.628 2.62a 2.62c 2.62e 2.62g 2.62i
    2.62k 2.62m 2.62o 2.62q 2.62s 2.62u 2.62w 2.62y 2.630 2.632 2.634 2.636 2.638 2.63a 2.63c
    2.63e 2.63g 2.63i 2.63k 2.63m 2.63o 2.63q 2.63s 2.63u 2.63w 2.63y 2.640 2.642 2.644 2.646
    2.648 2.64a 2.64c 2.64e 1.64o 1.64p 1.64q 1.64r 1.64s 1.64t 1.64u 1.64v 9.654 1.655 1.656
    1.657 1.658 1.659 b.65k 1.65l 1.65m 1.65n 1.65o 1.65p 1.65q 1.65r 9.660 1.661 1.662 1.663
    1.664 1.665 1.666 1.667 9.66g 1.66h 1.66i 1.66j 1.66k 1.66l b.px.lv 1.66x 1.px.lv.lc 1.66z
    1.px.lv.ld 1.671 1.px.lv.n6 1.673 9.67c 1.67d 1.67e 1.67f 1.67g 1.67h 1.67i 1.67j 9.69m
    1.69n 1.6a0 1.6a1 1.6a2 1.6a3 1.6ai 1.6aj 1.6bc 1.6bd 1.6ay 1.6az 1.6be 1.6bf 3.64o.pl
    1.64p.pl 1.64q.pl 1.64r.pl 1.64s.pl 1.64t.pl 1.64u.pl 1.64v.pl 1.64o.pl 1.64p.pl 1.64q.pl
    1.64r.pl 1.64s.pl 1.64t.pl 1.64u.pl 1.64v.pl 1.65k.pl 1.65l.pl 1.65m.pl 1.65n.pl 1.65o.pl
    1.65p.pl 1.65q.pl 1.65r.pl 1.65k.pl 1.65l.pl 1.65m.pl 1.65n.pl 1.65o.pl 1.65p.pl 1.65q.pl
    1.65r.pl 1.67c.pl 1.67d.pl 1.67e.pl 1.67f.pl 1.67g.pl 1.67h.pl 1.67i.pl 1.67j.pl 1.67c.pl
    1.67d.pl 1.67e.pl 1.67f.pl 1.67g.pl 1.67h.pl 1.67i.pl 1.67j.pl 1.69k 1.69l 1.69m.pl 1.pd.pl
    1.p2.pl 2.pd.n6 1.pd.n6.pl 5.pd.pl 2.pl 4.6a2.pl 1.pj.pl 1.p5.pl 2.pj.n6 1.pj.n6.pl 5.pj.pl
    4.6ag 1.6ah 1.pl.lk.lc 1.pl.lk.ld 3.pl.n6 1.pl.lk.n6 9.6aw 1.6ax 1.px.lk.lc 1.px.lk.ld
    1.pt.lv 1.6b0 1.px.n6 1.px.lk.n6 b.6be.pl 1.q1.pl 1.pb.pl 2.q1.n6 1.q1.n6.pl 5.q1.pl 9e.6k2
    y.6lc 1.6ld 1.6le 1.6lf 1.6lg 1.6lh 1.6li 1.6lj 1.6lk 1.6ll 1.6lm 1.6ln 1.6lo 1.6lp 1.6lq
    1.6lr 5.6mb ng.792 1.793 1.794 1.795 1.796 1.797 1.798 1.799 1.79a 1.79b 1.79c 1.79d 1.79e
    1.79f 1.79g 1.79h 1.79i 1.79j 1.79k 1.79l 1.79m 1.79n 1.79o 1.79p 1.79q 1.79r 1fr.8ow 1.8ox
    1.8oy 1.8oz 1.8p0 1.8p1 1.8p2 1.8p3 1.8p4 1.8p5 1.8p6 1.8p7 1.8p8 1.8p9 1.8pa 1.8pb 1.8pc
    1.8pd 1.8pe 1.8pf 1.8pg 1.8ph 1.8pi 1.8pj 1.8pk 1.8pl 1.8pm 1.8pn 1.8po 1.8pp 1.8pq 1.8pr
    1.8ps 1.8pt 1.8pu 1.8pv 1.8pw 1.8px 1.8py 1.8pz 1.8q0 1.8q1 1.8q2 1.8q3 1.8q4 1.8q5 1.8q6
    1.8q7 2.8rk 4.fu 1.fy 2.8rr 2.8rt 2.8rv 7.8s2 3.8s5 b.8sg 2.8si 2.8sk 2.8sm 2.8so 2.8sq
    2.8ss 2.8su 2.8sw 2.8sy 2.8t0 2.8t2 2.8t4 2.8t6 2.8t8 2.8ta 2.8tc 2.8te 2.8tg 2.8ti 2.8tk
    2.8tm 2.8to 2.8tq 2.8ts 2.8tu 2.8tw 2.8ty 2.8u0 2.8u2 2.8u4 2.8u6 2.8u8 2.8ua 2.8uc 2.8ue
    2.8ug 2.8ui 2.8uk 2.8um 2.8uo 2.8uq 2.8us 2.8uu 2.8uw 2.8uy 2.8v0 2.8v2 2.8v4 2.8v6 9.8vf
    2.8vh 5.8vm d.3a8 1.3a9 1.3aa 1.3ab 1.3ac 1.3ad 1.3ae 1.3af 1.3ag 1.3ah 1.3ai 1.3aj 1.3ak
    1.3al 1.3am 1.3an 1.3ao 1.3ap 1.3aq 1.3ar 1.3as 1.3at 1.3au 1.3av 1.3aw 1.3ax 1.3ay 1.3az
    1.3b0 1.3b1 1.3b2 1.3b3 1.3b4 1.3b5 1.3b6 1.3b7 1.3b8 1.3b9 2.3bb 6.3bh nx0.wu8 2.wua 2.wuc
    2.wue 2.wug 2.wui 2.wuk 2.wum 2.wuo 2.wuq 2.wus 2.wuu 2.wuw 2.wuy 2.wv0 2.wv2 2.wv4 2.wv6
    2.wv8 2.wva 2.wvc 2.wve 2.wvg k.ww0 2.ww2 2.ww4 2.ww6 2.ww8 2.wwa 2.wwc 2.wwe 2.wwg 2.wwi
    2.wwk 2.wwm 2.wwo 2.wwq 3s.x0i 2.x0k 2.x0m 2.x0o 2.x0q 2.x0s 2.x0u 4.x0y 2.x10 2.x12 2.x14
    2.x16 2.x18 2.x1a 2.x1c 2.x1e 2.x1g 2.x1i 2.x1k 2.x1m 2.x1o 2.x1q 2.x1s 2.x1u 2.x1w 2.x1y
    2.x20 2.x22 2.x24 2.x26 2.x28 2.x2a 2.x2c 2.x2e 2.x2g 2.x2i 2.x2k 2.x2m b.x2x 2.x2z 3.x32
    2.x34 2.x36 2.x38 2.x3a 5.x3f 5.x3k 2.x3m 1.x50 3.x3q 2.x3s 2.x3u 2.x3w 2.x3y 2.x40 2.x42
    2.x44 2.x46 2.x48 c.x4k 2.x4m 2.x4o 2.x4q 2.x4s 2.x4u 2.x4w 2.x4y 5.x53 2.x55 3.x58 2.x5a
    2.x5c 2.x5e 2.x5g 2.x5i 2.x5k 2.x5m r.x6d nx.x4j t.3vk 1.3vl 1.3vm 1.3vn 1.3vo 1.3vp 1.3vq
    1.3vr 1.3vs 1.3vt 1.3vu 1.3vv 1.3vw 1.3vx 1.3vy 1.3vz 1.3w0 1.3w1 1.3w2 1.3w3 1.3w4 1.3w5
    1.3w6 1.3w7 1.3w8 1.3w9 1.3wa 1.3wb 1.3wc 1.3wd 1.3we 1.3wf 1.3wg 1.3wh 1.3wi 1.3wj 1.3wk
    1.3wl 1.3wm 1.3wn 1.3wo 1.3wp 1.3wq 1.3wr 1.3ws 1.3wt 1.3wu 1.3wv 1.3ww 1.3wx 1.3wy 1.3wz
    1.3x0 1.3x1 1.3x2 1.3x3 1.3x4 1.3x5 1.3x6 1.3x7 1.3x8 1.3x9 1.3xa 1.3xb 1.3xc 1.3xd 1.3xe
    1.3xf 1.3xg 1.3xh 1.3xi 1.3xj 1.3xk 1.3xl 1.3xm 1.3xn 1.3xo 1.3xp 1.3xq 1.3xr fnl.1y.1y
    1.1y.21 1.1y.24 1.1y.1y.21 1.1y.1y.24 1.2b.2c 1.2b.2c d.11g.11i 1.11g.111 1.11g.117
    1.11q.11i 1.11g.119 tm.1ee9 1.1eea 1.1eeb 1.1eec 1.1eed 1.1eee 1.1eef 1.1eeg 1.1eeh 1.1eei
    1.1eej 1.1eek 1.1eel 1.1eem 1.1een 1.1eeo 1.1eep 1.1eeq 1.1eer 1.1ees 1.1eet 1.1eeu 1.1eev
    1.1eew 1.1eex 1.1eey y6.1fcw 1.1fcx 1.1fcy 1.1fcz 1.1fd0 1.1fd1 1.1fd2 1.1fd3 1.1fd4 1.1fd5
    1.1fd6 1.1fd7 1.1fd8 1.1fd9 1.1fda 1.1fdb 1.1fdc 1.1fdd 1.1fde 1.1fdf 1.1fdg 1.1fdh 1.1fdi
    1.1fdj 1.1fdk 1.1fdl 1.1fdm 1.1fdn 1.1fdo 1.1fdp 1.1fdq 1.1fdr 1.1fds 1.1fdt 1.1fdu 1.1fdv
    1.1fdw 1.1fdx 1.1fdy 1.1fdz 3t.1fhs 1.1fht 1.1fhu 1.1fhv 1.1fhw 1.1fhx 1.1fhy 1.1fhz 1.1fi0
    1.1fi1 1.1fi2 1.1fi3 1.1fi4 1.1fi5 1.1fi6 1.1fi7 1.1fi8 1.1fi9 1.1fia 1.1fib 1.1fic 1.1fid
    1.1fie 1.1fif 1.1fig 1.1fih 1.1fii 1.1fij 1.1fik 1.1fil 1.1fim 1.1fin 1.1fio 1.1fip 1.1fiq
    1.1fir 4c.1fn4 1.1fn5 1.1fn6 1.1fn7 1.1fn8 1.1fn9 1.1fna 1.1fnb 1.1fnc 1.1fnd 1.1fne 2.1fng
    1.1fnh 1.1fni 1.1fnj 1.1fnk 1.1fnl 1.1fnm 1.1fnn 1.1fno 1.1fnp 1.1fnq 1.1fnr 1.1fns 1.1fnt
    1.1fnu 2.1fnw 1.1fnx 1.1fny 1.1fnz 1.1fo0 1.1fo1 1.1fo2 2.1fo4 1.1fo5 1dw.1h1c 1.1h1d
    1.1h1e 1.1h1f 1.1h1g 1.1h1h 1.1h1i 1.1h1j 1.1h1k 1.1h1l 1.1h1m 1.1h1n 1.1h1o 1.1h1p 1.1h1q
    1.1h1r 1.1h1s 1.1h1t 1.1h1u 1.1h1v 1.1h1w 1.1h1x 1.1h1y 1.1h1z 1.1h20 1.1h21 1.1h22 1.1h23
    1.1h24 1.1h25 1.1h26 1.1h27 1.1h28 1.1h29 1.1h2a 1.1h2b 1.1h2c 1.1h2d 1.1h2e 1.1h2f 1.1h2g
    1.1h2h 1.1h2i 1.1h2j 1.1h2k 1.1h2l 1.1h2m 1.1h2n 1.1h2o 1.1h2p 1.1h2q 3i.1h74 1.1h75 1.1h76
    1.1h77 1.1h78 1.1h79 1.1h7a 1.1h7b 1.1h7c 1.1h7d 1.1h7e 1.1h7f 1.1h7g 1.1h7h 1.1h7i 1.1h7j
    1.1h7k 1.1h7l 1.1h7m 1.1h7n 1.1h7o 1.1h7p 27v.1jfk 1.1jfl 1.1jfm 1.1jfn 1.1jfo 1.1jfp
    1.1jfq 1.1jfr 1.1jfs 1.1jft 1.1jfu 1.1jfv 1.1jfw 1.1jfx 1.1jfy 1.1jfz 1.1jg0 1.1jg1 1.1jg2
    1.1jg3 1.1jg4 1.1jg5 1.1jg6 1.1jg7 1.1jg8 1.1jg9 1.1jga 1.1jgb 1.1jgc 1.1jgd 1.1jge 1.1jgf
    gw1.20cg 1.20ch 1.20ci 1.20cj 1.20ck 1.20cl 1.20cm 1.20cn 1.20co 1.20cp 1.20cq 1.20cr
    1.20cs 1.20ct 1.20cu 1.20cv 1.20cw 1.20cx 1.20cy 1.20cz 1.20d0 1.20d1 1.20d2 1.20d3 1.20d4
    1.20d5 1.20d6 1.20d7 1.20d8 1.20d9 1.20da 1.20db 1o.20f4 1.20f5 1.20f6 1.20f7 1.20f8 1.20f9
    1.20fa 1.20fb 1.20fc 1.20fd 1.20fe 1.20ff 1.20fg 1.20fh 1.20fi 1.20fj 1.20fk 1.20fl 1.20fm
    1.20fn 1.20fo 1.20fp 1.20fq 1.20fr 1.20fs o5r.2olc 1.2old 1.2ole 1.2olf 1.2olg 1.2olh
    1.2oli 1.2olj 1.2olk 1.2oll 1.2olm 1.2oln 1.2olo 1.2olp 1.2olq 1.2olr 1.2ols 1.2olt 1.2olu
    1.2olv 1.2olw 1.2olx 1.2oly 1.2olz 1.2om0 1.2om1 1.2om2 1.2om3 1.2om4 1.2om5 1.2om6 1.2om7
    1.2om8 1.2om9"

def lower : Array (Nat × List Char) := entries
  "1t.2p 1.2q 1.2r 1.2s 1.2t 1.2u 1.2v 1.2w 1.2x 1.2y 1.2z 1.30 1.31 1.32 1.33 1.34 1.35 1.36
    1.37 1.38 1.39 1.3a 1.3b 1.3c 1.3d 1.3e 2u.68 1.69 1.6a 1.6b 1.6c 1.6d 1.6e 1.6f 1.6g 1.6h
    1.6i 1.6j 1.6k 1.6l 1.6m 1.6n 1.6o 1.6p 1.6q 1.6r 1.6s 1.6t 1.6u 2.6w 1.6x 1.6y 1.6z 1.70
    1.71 1.72 y.75 2.77 2.79 2.7b 2.7d 2.7f 2.7h 2.7j 2.7l 2.7n 2.7p 2.7r 2.7t 2.7v 2.7x 2.7z
    2.81 2.83 2.85 2.87 2.89 2.8b 2.8d 2.8f 2.2x.lj 2.8j 2.8l 2.8n 3.8q 2.8s 2.8u 2.8w 2.8y
    2.90 2.92 2.94 3.97 2.99 2.9b 2.9d 2.9f 2.9h 2.9j 2.9l 2.9n 2.9p 2.9r 2.9t 2.9v 2.9x 2.9z
    2.a1 2.a3 2.a5 2.a7 2.a9 2.ab 2.ad 2.af 2.73 1.ai 2.ak 2.am 4.gj 1.ar 2.at 2.gk 1.aw 2.gm
    1.gn 1.b0 3.d9 1.gp 1.gr 1.b6 2.gw 1.gz 2.h5 1.h4 1.bd 4.hb 1.he 2.hh 1.bl 2.bn 2.bp 2.hs
    1.bs 2.hv 3.bx 2.i0 1.c0 2.i2 1.i3 1.c4 2.c6 2.ia 1.c9 4.cd 8.cm 1.cm 2.cp 1.cp 2.cs 1.cs
    2.cu 2.cw 2.cy 2.d0 2.d2 2.d4 2.d6 2.d8 3.db 2.dd 2.df 2.dh 2.dj 2.dl 2.dn 2.dp 2.dr 3.dv
    1.dv 2.dx 2.b9 1.cf 1.e1 2.e3 2.e5 2.e7 2.e9 2.eb 2.ed 2.ef 2.eh 2.ej 2.el 2.en 2.ep 2.er
    2.et 2.ev 2.ex 2.ez 2.f1 2.f3 2.bi 2.f7 2.f9 2.fb 2.fd 2.ff 2.fh 2.fj 2.fl 2.fn 8.8rp 1.fw
    2.be 1.8rq 3.g2 2.ao 1.i1 1.i4 1.g7 2.g9 2.gb 2.gd 2.gf 82.oh 2.oj 4.on 9.s3 7.q4 2.q5 1.q6
    1.q7 2.r0 2.r1 1.r2 2.q9 1.qa 1.qb 1.qc 1.qd 1.qe 1.qf 1.qg 1.qh 1.qi 1.qj 1.qk 1.ql 1.qm
    1.qn 1.qo 1.qp 2.qr 1.qs 1.qt 1.qu 1.qv 1.qw 1.qx 1.qy 1.qz 10.rb 9.rd 2.rf 2.rh 2.rj 2.rl
    2.rn 2.rp 2.rr 2.rt 2.rv 2.rx 2.rz 6.qg 3.s8 2.s2 1.sb 3.or 1.os 1.ot 1.uo 1.up 1.uq 1.ur
    1.us 1.ut 1.uu 1.uv 1.uw 1.ux 1.uy 1.uz 1.v0 1.v1 1.v2 1.v3 1.ts 1.tt 1.tu 1.tv 1.tw 1.tx
    1.ty 1.tz 1.u0 1.u1 1.u2 1.u3 1.u4 1.u5 1.u6 1.u7 1.u8 1.u9 1.ua 1.ub 1.uc 1.ud 1.ue 1.uf
    1.ug 1.uh 1.ui 1.uj 1.uk 1.ul 1.um 1.un 1d.v5 2.v7 2.v9 2.vb 2.vd 2.vf 2.vh 2.vj 2.vl 2.vn
    2.vp 2.vr 2.vt 2.vv 2.vx 2.vz 2.w1 a.wb 2.wd 2.wf 2.wh 2.wj 2.wl 2.wn 2.wp 2.wr 2.wt 2.wv
    2.wx 2.wz 2.x1 2.x3 2.x5 2.x7 2.x9 2.xb 2.xd 2.xf 2.xh 2.xj 2.xl 2.xn 2.xp 2.xr 2.y7 1.xu
    2.xw 2.xy 2.y0 2.y2 2.y4 2.y6 3.y9 2.yb 2.yd 2.yf 2.yh 2.yj 2.yl 2.yn 2.yp 2.yr 2.yt 2.yv
    2.yx 2.yz 2.z1 2.z3 2.z5 2.z7 2.z9 2.zb 2.zd 2.zf 2.zh 2.zj 2.zl 2.zn 2.zp 2.zr 2.zt 2.zv
    2.zx 2.zz 2.101 2.103 2.105 2.107 2.109 2.10b 2.10d 2.10f 2.10h 2.10j 2.10l 2.10n 2.10p
    2.10r 2.10t 2.10v 3.129 1.12a 1.12b 1.12c 1.12d 1.12e 1.12f 1.12g 1.12h 1.12i 1.12j 1.12k
    1.12l 1.12m 1.12n 1.12o 1.12p 1.12q 1.12r 1.12s 1.12t 1.12u 1.12v 1.12w 1.12x 1.12y 1.12z
    1.130 1.131 1.132 1.133 1.134 1.135 1.136 1.137 1.138 1.139 1.13a 28a.8w0 1.8w1 1.8w2 1.8w3
    1.8w4 1.8w5 1.8w6 1.8w7 1.8w8 1.8w9 1.8wa 1.8wb 1.8wc 1.8wd 1.8we 1.8wf 1.8wg 1.8wh 1.8wi
    1.8wj 1.8wk 1.8wl 1.8wm 1.8wn 1.8wo 1.8wp 1.8wq 1.8wr 1.8ws 1.8wt 1.8wu 1.8wv 1.8ww 1.8wx
    1.8wy 1.8wz 1.8x0 1.8x1 2.8x3 6.8x9 k3.xv4 1.xv5 1.xv6 1.xv7 1.xv8 1.xv9 1.xva 1.xvb 1.xvc
    1.xvd 1.xve 1.xvf 1.xvg 1.xvh 1.xvi 1.xvj 1.xvk 1.xvl 1.xvm 1.xvn 1.xvo 1.xvp 1.xvq 1.xvr
    1.xvs 1.xvt 1.xvu 1.xvv 1.xvw 1.xvx 1.xvy 1.xvz 1.xw0 1.xw1 1.xw2 1.xw3 1.xw4 1.xw5 1.xw6
    1.xw7 1.xw8 1.xw9 1.xwa 1.xwb 1.xwc 1.xwd 1.xwe 1.xwf 1.xwg 1.xwh 1.xwi 1.xwj 1.xwk 1.xwl
    1.xwm 1.xwn 1.xwo 1.xwp 1.xwq 1.xwr 1.xws 1.xwt 1.xwu 1.xwv 1.xww 1.xwx 1.xwy 1.xwz 1.xx0
    1.xx1 1.xx2 1.xx3 1.xx4 1.xx5 1.xx6 1.xx7 1.xx8 1.xx9 1.xxa 1.xxb 1.3y0 1.3y1 1.3y2 1.3y3
    1.3y4 1.3y5 1p0.5my 7.3bk 1.3bl 1.3bm 1.3bn 1.3bo 1.3bp 1.3bq 1.3br 1.3bs 1.3bt 1.3bu 1.3bv
    1.3bw 1.3bx 1.3by 1.3bz 1.3c0 1.3c1 1.3c2 1.3c3 1.3c4 1.3c5 1.3c6 1.3c7 1.3c8 1.3c9 1.3ca
    1.3cb 1.3cc 1.3cd 1.3ce 1.3cf 1.3cg 1.3ch 1.3ci 1.3cj 1.3ck 1.3cl 1.3cm 1.3cn 1.3co 1.3cp
    1.3cq 3.3ct 1.3cu 1.3cv 8x.5xd 2.5xf 2.5xh 2.5xj 2.5xl 2.5xn 2.5xp 2.5xr 2.5xt 2.5xv 2.5xx
    2.5xz 2.5y1 2.5y3 2.5y5 2.5y7 2.5y9 2.5yb 2.5yd 2.5yf 2.5yh 2.5yj 2.5yl 2.5yn 2.5yp 2.5yr
    2.5yt 2.5yv 2.5yx 2.5yz 2.5z1 2.5z3 2.5z5 2.5z7 2.5z9 2.5zb 2.5zd 2.5zf 2.5zh 2.5zj 2.5zl
    2.5zn 2.5zp 2.5zr 2.5zt 2.5zv 2.5zx 2.5zz 2.601 2.603 2.605 2.607 2.609 2.60b 2.60d 2.60f
    2.60h 2.60j 2.60l 2.60n 2.60p 2.60r 2.60t 2.60v 2.60x 2.60z 2.611 2.613 2.615 2.617 2.619
    2.61b 2.61d 2.61f 2.61h a.67 2.61t 2.61v 2.61x 2.61z 2.621 2.623 2.625 2.627 2.629 2.62b
    2.62d 2.62f 2.62h 2.62j 2.62l 2.62n 2.62p 2.62r 2.62t 2.62v 2.62x 2.62z 2.631 2.633 2.635
    2.637 2.639 2.63b 2.63d 2.63f 2.63h 2.63j 2.63l 2.63n 2.63p 2.63r 2.63t 2.63v 2.63x 2.63z
    2.641 2.643 2.645 2.647 2.649 2.64b 2.64d 2.64f a.64g 1.64h 1.64i 1.64j 1.64k 1.64l 1.64m
    1.64n 9.64w 1.64x 1.64y 1.64z 1.650 1.651 b.65c 1.65d 1.65e 1.65f 1.65g 1.65h 1.65i 1.65j
    9.65s 1.65t 1.65u 1.65v 1.65w 1.65x 1.65y 1.65z 9.668 1.669 1.66a 1.66b 1.66c 1.66d c.66p
    2.66r 2.66t 2.66v 9.674 1.675 1.676 1.677 1.678 1.679 1.67a 1.67b p.680 1.681 1.682 1.683
    1.684 1.685 1.686 1.687 9.68g 1.68h 1.68i 1.68j 1.68k 1.68l 1.68m 1.68n 9.68w 1.68x 1.68y
    1.68z 1.690 1.691 1.692 1.693 9.69c 1.69d 1.67k 1.67l 1.69f c.67m 1.67n 1.67o 1.67p 1.69v
    c.6a8 1.6a9 1.67q 1.67r d.6ao 1.6ap 1.67u 1.67v 1.6at c.67s 1.67t 1.67w 1.67x 1.6b7 8a.qx
    4.2z 1.6d 7.6ku 1a.6ls 1.6lt 1.6lu 1.6lv 1.6lw 1.6lx 1.6ly 1.6lz 1.6m0 1.6m1 1.6m2 1.6m3
    1.6m4 1.6m5 1.6m6 1.6m7 k.6mc mr.79s 1.79t 1.79u 1.79v 1.79w 1.79x 1.79y 1.79z 1.7a0 1.7a1
    1.7a2 1.7a3 1.7a4 1.7a5 1.7a6 1.7a7 1.7a8 1.7a9 1.7aa 1.7ab 1.7ac 1.7ad 1.7ae 1.7af 1.7ag
    1.7ah 1f5.8q8 1.8q9 1.8qa 1.8qb 1.8qc 1.8qd 1.8qe 1.8qf 1.8qg 1.8qh 1.8qi 1.8qj 1.8qk 1.8ql
    1.8qm 1.8qn 1.8qo 1.8qp 1.8qq 1.8qr 1.8qs 1.8qt 1.8qu 1.8qv 1.8qw 1.8qx 1.8qy 1.8qz 1.8r0
    1.8r1 1.8r2 1.8r3 1.8r4 1.8r5 1.8r6 1.8r7 1.8r8 1.8r9 1.8ra 1.8rb 1.8rc 1.8rd 1.8re 1.8rf
    1.8rg 1.8rh 1.8ri 1.8rj 1d.8rl 2.h7 1.5tp 1.hp 3.8rs 2.8ru 2.8rw 2.gh 1.hd 1.gg 1.gi 2.8s3
    3.8s6 9.fz 1.g0 1.8sh 2.8sj 2.8sl 2.8sn 2.8sp 2.8sr 2.8st 2.8sv 2.8sx 2.8sz 2.8t1 2.8t3
    2.8t5 2.8t7 2.8t9 2.8tb 2.8td 2.8tf 2.8th 2.8tj 2.8tl 2.8tn 2.8tp 2.8tr 2.8tt 2.8tv 2.8tx
    2.8tz 2.8u1 2.8u3 2.8u5 2.8u7 2.8u9 2.8ub 2.8ud 2.8uf 2.8uh 2.8uj 2.8ul 2.8un 2.8up 2.8ur
    2.8ut 2.8uv 2.8ux 2.8uz 2.8v1 2.8v3 2.8v5 2.8v7 9.8vg 2.8vi 5.8vn nym.wu9 2.wub 2.wud 2.wuf
    2.wuh 2.wuj 2.wul 2.wun 2.wup 2.wur 2.wut 2.wuv 2.wux 2.wuz 2.wv1 2.wv3 2.wv5 2.wv7 2.wv9
    2.wvb 2.wvd 2.wvf 2.wvh k.ww1 2.ww3 2.ww5 2.ww7 2.ww9 2.wwb 2.wwd 2.wwf 2.wwh 2.wwj 2.wwl
    2.wwn 2.wwp 2.wwr 3s.x0j 2.x0l 2.x0n 2.x0p 2.x0r 2.x0t 2.x0v 4.x0z 2.x11 2.x13 2.x15 2.x17
    2.x19 2.x1b 2.x1d 2.x1f 2.x1h 2.x1j 2.x1l 2.x1n 2.x1p 2.x1r 2.x1t 2.x1v 2.x1x 2.x1z 2.x21
    2.x23 2.x25 2.x27 2.x29 2.x2b 2.x2d 2.x2f 2.x2h 2.x2j 2.x2l 2.x2n b.x2y 2.x30 2.5tl 1.x33
    2.x35 2.x37 2.x39 2.x3b 5.x3g 2.h1 3.x3l 2.x3n 4.x3r 2.x3t 2.x3v 2.x3x 2.x3z 2.x41 2.x43
    2.x45 2.x47 2.x49 2.h2 1.gs 1.gx 1.h8 1.h6 2.im 1.hz 1.il 1.xub 1.x4l 2.x4n 2.x4p 2.x4r
    2.x4t 2.x4v 2.x4x 2.x4z 2.x3o 1.hu 1.5u6 1.x54 2.x56 2.h0 1.x59 2.x5b 2.x5d 2.x5f 2.x5h
    2.x5j 2.x5l 2.x5n 2.bf p.x6e h7w.1ef5 1.1ef6 1.1ef7 1.1ef8 1.1ef9 1.1efa 1.1efb 1.1efc
    1.1efd 1.1efe 1.1eff 1.1efg 1.1efh 1.1efi 1.1efj 1.1efk 1.1efl 1.1efm 1.1efn 1.1efo 1.1efp
    1.1efq 1.1efr 1.1efs 1.1eft 1.1efu xy.1fe0 1.1fe1 1.1fe2 1.1fe3 1.1fe4 1.1fe5 1.1fe6 1.1fe7
    1.1fe8 1.1fe9 1.1fea 1.1feb 1.1fec 1.1fed 1.1fee 1.1fef 1.1feg 1.1feh 1.1fei 1.1fej 1.1fek
    1.1fel 1.1fem 1.1fen 1.1feo 1.1fep 1.1feq 1.1fer 1.1fes 1.1fet 1.1feu 1.1fev 1.1few 1.1fex
    1.1fey 1.1fez 1.1ff0 1.1ff1 1.1ff2 1.1ff3 3t.1fiw 1.1fix 1.1fiy 1.1fiz 1.1fj0 1.1fj1 1.1fj2
    1.1fj3 1.1fj4 1.1fj5 1.1fj6 1.1fj7 1.1fj8 1.1fj9 1.1fja 1.1fjb 1.1fjc 1.1fjd 1.1fje 1.1fjf
    1.1fjg 1.1fjh 1.1fji 1.1fjj 1.1fjk 1.1fjl 1.1fjm 1.1fjn 1.1fjo 1.1fjp 1.1fjq 1.1fjr 1.1fjs
    1.1fjt 1.1fju 1.1fjv 4d.1fo7 1.1fo8 1.1fo9 1.1foa 1.1fob 1.1foc 1.1fod 1.1foe 1.1fof 1.1fog
    1.1foh 2.1foj 1.1fok 1.1fol 1.1fom 1.1fon 1.1foo 1.1fop 1.1foq 1.1for 1.1fos 1.1fot 1.1fou
    1.1fov 1.1fow 1.1fox 2.1foz 1.1fp0 1.1fp1 1.1fp2 1.1fp3 1.1fp4 1.1fp5 2.1fp7 1.1fp8
    1d7.1h34 1.1h35 1.1h36 1.1h37 1.1h38 1.1h39 1.1h3a 1.1h3b 1.1h3c 1.1h3d 1.1h3e 1.1h3f
    1.1h3g 1.1h3h 1.1h3i 1.1h3j 1.1h3k 1.1h3l 1.1h3m 1.1h3n 1.1h3o 1.1h3p 1.1h3q 1.1h3r 1.1h3s
    1.1h3t 1.1h3u 1.1h3v 1.1h3w 1.1h3x 1.1h3y 1.1h3z 1.1h40 1.1h41 1.1h42 1.1h43 1.1h44 1.1h45
    1.1h46 1.1h47 1.1h48 1.1h49 1.1h4a 1.1h4b 1.1h4c 1.1h4d 1.1h4e 1.1h4f 1.1h4g 1.1h4h 1.1h4i
    4e.1h80 1.1h81 1.1h82 1.1h83 1.1h84 1.1h85 1.1h86 1.1h87 1.1h88 1.1h89 1.1h8a 1.1h8b 1.1h8c
    1.1h8d 1.1h8e 1.1h8f 1.1h8g 1.1h8h 1.1h8i 1.1h8j 1.1h8k 1.1h8l 27v.1jgg 1.1jgh 1.1jgi
    1.1jgj 1.1jgk 1.1jgl 1.1jgm 1.1jgn 1.1jgo 1.1jgp 1.1jgq 1.1jgr 1.1jgs 1.1jgt 1.1jgu 1.1jgv
    1.1jgw 1.1jgx 1.1jgy 1.1jgz 1.1jh0 1.1jh1 1.1jh2 1.1jh3 1.1jh4 1.1jh5 1.1jh6 1.1jh7 1.1jh8
    1.1jh9 1.1jha 1.1jhb gw1.20dc 1.20dd 1.20de 1.20df 1.20dg 1.20dh 1.20di 1.20dj 1.20dk
    1.20dl 1.20dm 1.20dn 1.20do 1.20dp 1.20dq 1.20dr 1.20ds 1.20dt 1.20du 1.20dv 1.20dw 1.20dx
    1.20dy 1.20dz 1.20e0 1.20e1 1.20e2 1.20e3 1.20e4 1.20e5 1.20e6 1.20e7 1t.20fv 1.20fw 1.20fx
    1.20fy 1.20fz 1.20g0 1.20g1 1.20g2 1.20g3 1.20g4 1.20g5 1.20g6 1.20g7 1.20g8 1.20g9 1.20ga
    1.20gb 1.20gc 1.20gd 1.20ge 1.20gf 1.20gg 1.20gh 1.20gi 1.20gj o5k.2oma 1.2omb 1.2omc
    1.2omd 1.2ome 1.2omf 1.2omg 1.2omh 1.2omi 1.2omj 1.2omk 1.2oml 1.2omm 1.2omn 1.2omo 1.2omp
    1.2omq 1.2omr 1.2oms 1.2omt 1.2omu 1.2omv 1.2omw 1.2omx 1.2omy 1.2omz 1.2on0 1.2on1 1.2on2
    1.2on3 1.2on4 1.2on5 1.2on6 1.2on7"

/-- Classes of characters that are equal when case is ignored. -/
def classes : List (List Nat) := groups
  "1t.2p 1u.2q 1v.2r 1w.2s 1x.2t 1y.2u 1z.2v 20.2w 21.2x 22.2y 23.2z.6ju 24.30 25.31 26.32
    27.33 28.34 29.35 2a.36 2b.37.an 2c.38 2d.39 2e.3a 2f.3b 2g.3c 2h.3d 2i.3e 51.po.qk 5c.68
    5d.69 5e.6a 5f.6b 5g.6c 5h.6d.6jv 5i.6e 5j.6f 5k.6g 5l.6h 5m.6i 5n.6j 5o.6k 5p.6l 5q.6m
    5r.6n 5s.6o 5t.6p 5u.6q 5v.6r 5w.6s 5x.6t 5y.6u 60.6w 61.6x 62.6y 63.6z 64.70 65.71 66.72
    67.61q 73.ag 74.75 76.77 78.79 7a.7b 7c.7d 7e.7f 7g.7h 7i.7j 7k.7l 7m.7n 7o.7p 7q.7r 7s.7t
    7u.7v 7w.7x 7y.7z 80.81 82.83 84.85 86.87 88.89 8a.8b 8c.8d 8e.8f 8i.8j 8k.8l 8m.8n 8p.8q
    8r.8s 8t.8u 8v.8w 8x.8y 8z.90 91.92 93.94 96.97 98.99 9a.9b 9c.9d 9e.9f 9g.9h 9i.9j 9k.9l
    9m.9n 9o.9p 9q.9r 9s.9t 9u.9v 9w.9x 9y.9z a0.a1 a2.a3 a4.a5 a6.a7 a8.a9 aa.ab ac.ad ae.af
    ah.ai aj.ak al.am ao.g3 ap.gj aq.ar as.at au.gk av.aw ax.gm ay.gn az.b0 b2.d9 b3.gp b4.gr
    b5.b6 b7.gw b8.gz b9.dy ba.h5 bb.h4 bc.bd be.fx bf.x5o bg.hb bh.he bi.f4 bj.hh bk.bl bm.bn
    bo.bp bq.hs br.bs bt.hv bw.bx by.i0 bz.c0 c1.i2 c2.i3 c3.c4 c5.c6 c7.ia c8.c9 cc.cd cf.dz
    ck.cl.cm cn.co.cp cq.cr.cs ct.cu cv.cw cx.cy cz.d0 d1.d2 d3.d4 d5.d6 d7.d8 da.db dc.dd
    de.df dg.dh di.dj dk.dl dm.dn do.dp dq.dr dt.du.dv dw.dx e0.e1 e2.e3 e4.e5 e6.e7 e8.e9
    ea.eb ec.ed ee.ef eg.eh ei.ej ek.el em.en eo.ep eq.er es.et eu.ev ew.ex ey.ez f0.f1 f2.f3
    f6.f7 f8.f9 fa.fb fc.fd fe.ff fg.fh fi.fj fk.fl fm.fn fu.8rp fv.fw fy.8rq fz.8se g0.8sf
    g1.g2 g4.i1 g5.i4 g6.g7 g8.g9 ga.gb gc.gd ge.gf gg.8rz gh.8rx gi.8s0 gs.x4b gx.x4c h0.x57
    h1.x3h h2.x4a h6.x4e h7.8rm h8.x4d hd.8ry hp.8ro hu.x51 hz.x4h il.x4i im.x4g n9.pl.qh.69q
    og.oh oi.oj om.on or.sd os.se ot.sf ov.s3 p2.q4 p4.q5 p5.q6 p6.q7 p8.r0 pa.r1 pb.r2 pc.6ab
    pd.q9 pe.qa.r4 pf.qb pg.qc ph.qd.s5 pi.qe pj.qf pk.qg.r5.s4 pm.qi.s0 pn.qj pp.ql pq.qm
    pr.qn ps.qo.ra pt.qp.s1 pv.qq.qr pw.qs px.qt py.qu.r9 pz.qv q0.qw q1.qx.6jq q2.qy q3.qz
    q8.6ar r3.rb rc.rd re.rf rg.rh ri.rj rk.rl rm.rn ro.rp rq.rr rs.rt ru.rv rw.rx ry.rz s2.s9
    s7.s8 sa.sb sg.uo sh.up si.uq sj.ur sk.us sl.ut sm.uu sn.uv so.uw sp.ux sq.uy sr.uz ss.v0
    st.v1 su.v2 sv.v3 sw.ts sx.tt sy.tu.5mo sz.tv t0.tw.5mp t1.tx t2.ty t3.tz t4.u0 t5.u1 t6.u2
    t7.u3 t8.u4 t9.u5 ta.u6.5mq tb.u7 tc.u8 td.u9.5mr te.ua.5ms.5mt tf.ub tg.uc th.ud ti.ue
    tj.uf tk.ug tl.uh tm.ui.5mu tn.uj to.uk tp.ul tq.um tr.un v4.v5 v6.v7.5mv v8.v9 va.vb vc.vd
    ve.vf vg.vh vi.vj vk.vl vm.vn vo.vp vq.vr vs.vt vu.vv vw.vx vy.vz w0.w1 wa.wb wc.wd we.wf
    wg.wh wi.wj wk.wl wm.wn wo.wp wq.wr ws.wt wu.wv ww.wx wy.wz x0.x1 x2.x3 x4.x5 x6.x7 x8.x9
    xa.xb xc.xd xe.xf xg.xh xi.xj xk.xl xm.xn xo.xp xq.xr xs.y7 xt.xu xv.xw xx.xy xz.y0 y1.y2
    y3.y4 y5.y6 y8.y9 ya.yb yc.yd ye.yf yg.yh yi.yj yk.yl ym.yn yo.yp yq.yr ys.yt yu.yv yw.yx
    yy.yz z0.z1 z2.z3 z4.z5 z6.z7 z8.z9 za.zb zc.zd ze.zf zg.zh zi.zj zk.zl zm.zn zo.zp zq.zr
    zs.zt zu.zv zw.zx zy.zz 100.101 102.103 104.105 106.107 108.109 10a.10b 10c.10d 10e.10f
    10g.10h 10i.10j 10k.10l 10m.10n 10o.10p 10q.10r 10s.10t 10u.10v 10x.129 10y.12a 10z.12b
    110.12c 111.12d 112.12e 113.12f 114.12g 115.12h 116.12i 117.12j 118.12k 119.12l 11a.12m
    11b.12n 11c.12o 11d.12p 11e.12q 11f.12r 11g.12s 11h.12t 11i.12u 11j.12v 11k.12w 11l.12x
    11m.12y 11n.12z 11o.130 11p.131 11q.132 11r.133 11s.134 11t.135 11u.136 11v.137 11w.138
    11x.139 11y.13a 3a8.8w0 3a9.8w1 3aa.8w2 3ab.8w3 3ac.8w4 3ad.8w5 3ae.8w6 3af.8w7 3ag.8w8
    3ah.8w9 3ai.8wa 3aj.8wb 3ak.8wc 3al.8wd 3am.8we 3an.8wf 3ao.8wg 3ap.8wh 3aq.8wi 3ar.8wj
    3as.8wk 3at.8wl 3au.8wm 3av.8wn 3aw.8wo 3ax.8wp 3ay.8wq 3az.8wr 3b0.8ws 3b1.8wt 3b2.8wu
    3b3.8wv 3b4.8ww 3b5.8wx 3b6.8wy 3b7.8wz 3b8.8x0 3b9.8x1 3bb.8x3 3bh.8x9 3bk.5n4 3bl.5n5
    3bm.5n6 3bn.5n7 3bo.5n8 3bp.5n9 3bq.5na 3br.5nb 3bs.5nc 3bt.5nd 3bu.5ne 3bv.5nf 3bw.5ng
    3bx.5nh 3by.5ni 3bz.5nj 3c0.5nk 3c1.5nl 3c2.5nm 3c3.5nn 3c4.5no 3c5.5np 3c6.5nq 3c7.5nr
    3c8.5ns 3c9.5nt 3ca.5nu 3cb.5nv 3cc.5nw 3cd.5nx 3ce.5ny 3cf.5nz 3cg.5o0 3ch.5o1 3ci.5o2
    3cj.5o3 3ck.5o4 3cl.5o5 3cm.5o6 3cn.5o7 3co.5o8 3cp.5o9 3cq.5oa 3ct.5od 3cu.5oe 3cv.5of
    3vk.xv4 3vl.xv5 3vm.xv6 3vn.xv7 3vo.xv8 3vp.xv9 3vq.xva 3vr.xvb 3vs.xvc 3vt.xvd 3vu.xve
    3vv.xvf 3vw.xvg 3vx.xvh 3vy.xvi 3vz.xvj 3w0.xvk 3w1.xvl 3w2.xvm 3w3.xvn 3w4.xvo 3w5.xvp
    3w6.xvq 3w7.xvr 3w8.xvs 3w9.xvt 3wa.xvu 3wb.xvv 3wc.xvw 3wd.xvx 3we.xvy 3wf.xvz 3wg.xw0
    3wh.xw1 3wi.xw2 3wj.xw3 3wk.xw4 3wl.xw5 3wm.xw6 3wn.xw7 3wo.xw8 3wp.xw9 3wq.xwa 3wr.xwb
    3ws.xwc 3wt.xwd 3wu.xwe 3wv.xwf 3ww.xwg 3wx.xwh 3wy.xwi 3wz.xwj 3x0.xwk 3x1.xwl 3x2.xwm
    3x3.xwn 3x4.xwo 3x5.xwp 3x6.xwq 3x7.xwr 3x8.xws 3x9.xwt 3xa.xwu 3xb.xwv 3xc.xww 3xd.xwx
    3xe.xwy 3xf.xwz 3xg.xx0 3xh.xx1 3xi.xx2 3xj.xx3 3xk.xx4 3xl.xx5 3xm.xx6 3xn.xx7 3xo.xx8
    3xp.xx9 3xq.xxa 3xr.xxb 3xs.3y0 3xt.3y1 3xu.3y2 3xv.3y3 3xw.3y4 3xx.3y5 5mw.wui.wuj 5mx.5my
    5tl.x31 5tp.8rn 5u6.x52 5xc.5xd 5xe.5xf 5xg.5xh 5xi.5xj 5xk.5xl 5xm.5xn 5xo.5xp 5xq.5xr
    5xs.5xt 5xu.5xv 5xw.5xx 5xy.5xz 5y0.5y1 5y2.5y3 5y4.5y5 5y6.5y7 5y8.5y9 5ya.5yb 5yc.5yd
    5ye.5yf 5yg.5yh 5yi.5yj 5yk.5yl 5ym.5yn 5yo.5yp 5yq.5yr 5ys.5yt 5yu.5yv 5yw.5yx 5yy.5yz
    5z0.5z1 5z2.5z3 5z4.5z5 5z6.5z7 5z8.5z9 5za.5zb 5zc.5zd 5ze.5zf 5zg.5zh 5zi.5zj 5zk.5zl
    5zm.5zn 5zo.5zp 5zq.5zr 5zs.5zt 5zu.5zv 5zw.5zx 5zy.5zz 600.601.61n 602.603 604.605 606.607
    608.609 60a.60b 60c.60d 60e.60f 60g.60h 60i.60j 60k.60l 60m.60n 60o.60p 60q.60r 60s.60t
    60u.60v 60w.60x 60y.60z 610.611 612.613 614.615 616.617 618.619 61a.61b 61c.61d 61e.61f
    61g.61h 61s.61t 61u.61v 61w.61x 61y.61z 620.621 622.623 624.625 626.627 628.629 62a.62b
    62c.62d 62e.62f 62g.62h 62i.62j 62k.62l 62m.62n 62o.62p 62q.62r 62s.62t 62u.62v 62w.62x
    62y.62z 630.631 632.633 634.635 636.637 638.639 63a.63b 63c.63d 63e.63f 63g.63h 63i.63j
    63k.63l 63m.63n 63o.63p 63q.63r 63s.63t 63u.63v 63w.63x 63y.63z 640.641 642.643 644.645
    646.647 648.649 64a.64b 64c.64d 64e.64f 64g.64o 64h.64p 64i.64q 64j.64r 64k.64s 64l.64t
    64m.64u 64n.64v 64w.654 64x.655 64y.656 64z.657 650.658 651.659 65c.65k 65d.65l 65e.65m
    65f.65n 65g.65o 65h.65p 65i.65q 65j.65r 65s.660 65t.661 65u.662 65v.663 65w.664 65x.665
    65y.666 65z.667 668.66g 669.66h 66a.66i 66b.66j 66c.66k 66d.66l 66p.66x 66r.66z 66t.671
    66v.673 674.67c 675.67d 676.67e 677.67f 678.67g 679.67h 67a.67i 67b.67j 67k.69m 67l.69n
    67m.6a0 67n.6a1 67o.6a2 67p.6a3 67q.6ai 67r.6aj 67s.6bc 67t.6bd 67u.6ay 67v.6az 67w.6be
    67x.6bf 680.688 681.689 682.68a 683.68b 684.68c 685.68d 686.68e 687.68f 68g.68o 68h.68p
    68i.68q 68j.68r 68k.68s 68l.68t 68m.68u 68n.68v 68w.694 68x.695 68y.696 68z.697 690.698
    691.699 692.69a 693.69b 69c.69k 69d.69l 69f.69o 69v.6a4 6a8.6ag 6a9.6ah 6ao.6aw 6ap.6ax
    6at.6b0 6b7.6bg 6k2.6ku 6lc.6ls 6ld.6lt 6le.6lu 6lf.6lv 6lg.6lw 6lh.6lx 6li.6ly 6lj.6lz
    6lk.6m0 6ll.6m1 6lm.6m2 6ln.6m3 6lo.6m4 6lp.6m5 6lq.6m6 6lr.6m7 6mb.6mc 792.79s 793.79t
    794.79u 795.79v 796.79w 797.79x 798.79y 799.79z 79a.7a0 79b.7a1 79c.7a2 79d.7a3 79e.7a4
    79f.7a5 79g.7a6 79h.7a7 79i.7a8 79j.7a9 79k.7aa 79l.7ab 79m.7ac 79n.7ad 79o.7ae 79p.7af
    79q.7ag 79r.7ah 8ow.8q8 8ox.8q9 8oy.8qa 8oz.8qb 8p0.8qc 8p1.8qd 8p2.8qe 8p3.8qf 8p4.8qg
    8p5.8qh 8p6.8qi 8p7.8qj 8p8.8qk 8p9.8ql 8pa.8qm 8pb.8qn 8pc.8qo 8pd.8qp 8pe.8qq 8pf.8qr
    8pg.8qs 8ph.8qt 8pi.8qu 8pj.8qv 8pk.8qw 8pl.8qx 8pm.8qy 8pn.8qz 8po.8r0 8pp.8r1 8pq.8r2
    8pr.8r3 8ps.8r4 8pt.8r5 8pu.8r6 8pv.8r7 8pw.8r8 8px.8r9 8py.8ra 8pz.8rb 8q0.8rc 8q1.8rd
    8q2.8re 8q3.8rf 8q4.8rg 8q5.8rh 8q6.8ri 8q7.8rj 8rk.8rl 8rr.8rs 8rt.8ru 8rv.8rw 8s2.8s3
    8s5.8s6 8sg.8sh 8si.8sj 8sk.8sl 8sm.8sn 8so.8sp 8sq.8sr 8ss.8st 8su.8sv 8sw.8sx 8sy.8sz
    8t0.8t1 8t2.8t3 8t4.8t5 8t6.8t7 8t8.8t9 8ta.8tb 8tc.8td 8te.8tf 8tg.8th 8ti.8tj 8tk.8tl
    8tm.8tn 8to.8tp 8tq.8tr 8ts.8tt 8tu.8tv 8tw.8tx 8ty.8tz 8u0.8u1 8u2.8u3 8u4.8u5 8u6.8u7
    8u8.8u9 8ua.8ub 8uc.8ud 8ue.8uf 8ug.8uh 8ui.8uj 8uk.8ul 8um.8un 8uo.8up 8uq.8ur 8us.8ut
    8uu.8uv 8uw.8ux 8uy.8uz 8v0.8v1 8v2.8v3 8v4.8v5 8v6.8v7 8vf.8vg 8vh.8vi 8vm.8vn wu8.wu9
    wua.wub wuc.wud wue.wuf wug.wuh wuk.wul wum.wun wuo.wup wuq.wur wus.wut wuu.wuv wuw.wux
    wuy.wuz wv0.wv1 wv2.wv3 wv4.wv5 wv6.wv7 wv8.wv9 wva.wvb wvc.wvd wve.wvf wvg.wvh ww0.ww1
    ww2.ww3 ww4.ww5 ww6.ww7 ww8.ww9 wwa.wwb wwc.wwd wwe.wwf wwg.wwh wwi.wwj wwk.wwl wwm.wwn
    wwo.wwp wwq.wwr x0i.x0j x0k.x0l x0m.x0n x0o.x0p x0q.x0r x0s.x0t x0u.x0v x0y.x0z x10.x11
    x12.x13 x14.x15 x16.x17 x18.x19 x1a.x1b x1c.x1d x1e.x1f x1g.x1h x1i.x1j x1k.x1l x1m.x1n
    x1o.x1p x1q.x1r x1s.x1t x1u.x1v x1w.x1x x1y.x1z x20.x21 x22.x23 x24.x25 x26.x27 x28.x29
    x2a.x2b x2c.x2d x2e.x2f x2g.x2h x2i.x2j x2k.x2l x2m.x2n x2x.x2y x2z.x30 x32.x33 x34.x35
    x36.x37 x38.x39 x3a.x3b x3f.x3g x3k.x3l x3m.x3n x3o.x50 x3q.x3r x3s.x3t x3u.x3v x3w.x3x
    x3y.x3z x40.x41 x42.x43 x44.x45 x46.x47 x48.x49 x4j.xub x4k.x4l x4m.x4n x4o.x4p x4q.x4r
    x4s.x4t x4u.x4v x4w.x4x x4y.x4z x53.x54 x55.x56 x58.x59 x5a.x5b x5c.x5d x5e.x5f x5g.x5h
    x5i.x5j x5k.x5l x5m.x5n x6d.x6e 1dl1.1dl2 1ee9.1ef5 1eea.1ef6 1eeb.1ef7 1eec.1ef8 1eed.1ef9
    1eee.1efa 1eef.1efb 1eeg.1efc 1eeh.1efd 1eei.1efe 1eej.1eff 1eek.1efg 1eel.1efh 1eem.1efi
    1een.1efj 1eeo.1efk 1eep.1efl 1eeq.1efm 1eer.1efn 1ees.1efo 1eet.1efp 1eeu.1efq 1eev.1efr
    1eew.1efs 1eex.1eft 1eey.1efu 1fcw.1fe0 1fcx.1fe1 1fcy.1fe2 1fcz.1fe3 1fd0.1fe4 1fd1.1fe5
    1fd2.1fe6 1fd3.1fe7 1fd4.1fe8 1fd5.1fe9 1fd6.1fea 1fd7.1feb 1fd8.1fec 1fd9.1fed 1fda.1fee
    1fdb.1fef 1fdc.1feg 1fdd.1feh 1fde.1fei 1fdf.1fej 1fdg.1fek 1fdh.1fel 1fdi.1fem 1fdj.1fen
    1fdk.1feo 1fdl.1fep 1fdm.1feq 1fdn.1fer 1fdo.1fes 1fdp.1fet 1fdq.1feu 1fdr.1fev 1fds.1few
    1fdt.1fex 1fdu.1fey 1fdv.1fez 1fdw.1ff0 1fdx.1ff1 1fdy.1ff2 1fdz.1ff3 1fhs.1fiw 1fht.1fix
    1fhu.1fiy 1fhv.1fiz 1fhw.1fj0 1fhx.1fj1 1fhy.1fj2 1fhz.1fj3 1fi0.1fj4 1fi1.1fj5 1fi2.1fj6
    1fi3.1fj7 1fi4.1fj8 1fi5.1fj9 1fi6.1fja 1fi7.1fjb 1fi8.1fjc 1fi9.1fjd 1fia.1fje 1fib.1fjf
    1fic.1fjg 1fid.1fjh 1fie.1fji 1fif.1fjj 1fig.1fjk 1fih.1fjl 1fii.1fjm 1fij.1fjn 1fik.1fjo
    1fil.1fjp 1fim.1fjq 1fin.1fjr 1fio.1fjs 1fip.1fjt 1fiq.1fju 1fir.1fjv 1fn4.1fo7 1fn5.1fo8
    1fn6.1fo9 1fn7.1foa 1fn8.1fob 1fn9.1foc 1fna.1fod 1fnb.1foe 1fnc.1fof 1fnd.1fog 1fne.1foh
    1fng.1foj 1fnh.1fok 1fni.1fol 1fnj.1fom 1fnk.1fon 1fnl.1foo 1fnm.1fop 1fnn.1foq 1fno.1for
    1fnp.1fos 1fnq.1fot 1fnr.1fou 1fns.1fov 1fnt.1fow 1fnu.1fox 1fnw.1foz 1fnx.1fp0 1fny.1fp1
    1fnz.1fp2 1fo0.1fp3 1fo1.1fp4 1fo2.1fp5 1fo4.1fp7 1fo5.1fp8 1h1c.1h34 1h1d.1h35 1h1e.1h36
    1h1f.1h37 1h1g.1h38 1h1h.1h39 1h1i.1h3a 1h1j.1h3b 1h1k.1h3c 1h1l.1h3d 1h1m.1h3e 1h1n.1h3f
    1h1o.1h3g 1h1p.1h3h 1h1q.1h3i 1h1r.1h3j 1h1s.1h3k 1h1t.1h3l 1h1u.1h3m 1h1v.1h3n 1h1w.1h3o
    1h1x.1h3p 1h1y.1h3q 1h1z.1h3r 1h20.1h3s 1h21.1h3t 1h22.1h3u 1h23.1h3v 1h24.1h3w 1h25.1h3x
    1h26.1h3y 1h27.1h3z 1h28.1h40 1h29.1h41 1h2a.1h42 1h2b.1h43 1h2c.1h44 1h2d.1h45 1h2e.1h46
    1h2f.1h47 1h2g.1h48 1h2h.1h49 1h2i.1h4a 1h2j.1h4b 1h2k.1h4c 1h2l.1h4d 1h2m.1h4e 1h2n.1h4f
    1h2o.1h4g 1h2p.1h4h 1h2q.1h4i 1h74.1h80 1h75.1h81 1h76.1h82 1h77.1h83 1h78.1h84 1h79.1h85
    1h7a.1h86 1h7b.1h87 1h7c.1h88 1h7d.1h89 1h7e.1h8a 1h7f.1h8b 1h7g.1h8c 1h7h.1h8d 1h7i.1h8e
    1h7j.1h8f 1h7k.1h8g 1h7l.1h8h 1h7m.1h8i 1h7n.1h8j 1h7o.1h8k 1h7p.1h8l 1jfk.1jgg 1jfl.1jgh
    1jfm.1jgi 1jfn.1jgj 1jfo.1jgk 1jfp.1jgl 1jfq.1jgm 1jfr.1jgn 1jfs.1jgo 1jft.1jgp 1jfu.1jgq
    1jfv.1jgr 1jfw.1jgs 1jfx.1jgt 1jfy.1jgu 1jfz.1jgv 1jg0.1jgw 1jg1.1jgx 1jg2.1jgy 1jg3.1jgz
    1jg4.1jh0 1jg5.1jh1 1jg6.1jh2 1jg7.1jh3 1jg8.1jh4 1jg9.1jh5 1jga.1jh6 1jgb.1jh7 1jgc.1jh8
    1jgd.1jh9 1jge.1jha 1jgf.1jhb 20cg.20dc 20ch.20dd 20ci.20de 20cj.20df 20ck.20dg 20cl.20dh
    20cm.20di 20cn.20dj 20co.20dk 20cp.20dl 20cq.20dm 20cr.20dn 20cs.20do 20ct.20dp 20cu.20dq
    20cv.20dr 20cw.20ds 20cx.20dt 20cy.20du 20cz.20dv 20d0.20dw 20d1.20dx 20d2.20dy 20d3.20dz
    20d4.20e0 20d5.20e1 20d6.20e2 20d7.20e3 20d8.20e4 20d9.20e5 20da.20e6 20db.20e7 20f4.20fv
    20f5.20fw 20f6.20fx 20f7.20fy 20f8.20fz 20f9.20g0 20fa.20g1 20fb.20g2 20fc.20g3 20fd.20g4
    20fe.20g5 20ff.20g6 20fg.20g7 20fh.20g8 20fi.20g9 20fj.20ga 20fk.20gb 20fl.20gc 20fm.20gd
    20fn.20ge 20fo.20gf 20fp.20gg 20fq.20gh 20fr.20gi 20fs.20gj 2olc.2oma 2old.2omb 2ole.2omc
    2olf.2omd 2olg.2ome 2olh.2omf 2oli.2omg 2olj.2omh 2olk.2omi 2oll.2omj 2olm.2omk 2oln.2oml
    2olo.2omm 2olp.2omn 2olq.2omo 2olr.2omp 2ols.2omq 2olt.2omr 2olu.2oms 2olv.2omt 2olw.2omu
    2olx.2omv 2oly.2omw 2olz.2omx 2om0.2omy 2om1.2omz 2om2.2on0 2om3.2on1 2om4.2on2 2om5.2on3
    2om6.2on4 2om7.2on5 2om8.2on6 2om9.2on7"

end ValuePipeline.Text.CaseTable
